import FaultRelay.Proofs.Json.ReadBack
import FaultRelay.Proofs.Settings.Layers
import FaultRelay.Proofs.Settings.Validity
import Mathlib.Data.List.Induction

/-!
# Which texts of variables become settings as they are

The text of a variable that looks like a truth value or a number is taken for one, also where the
setting is a text.  The setting then is the usual spelling of that value.

**Results.**
* `toString_eq_iff_of_int?`: which whole numbers are in their usual spelling.
* `Tree.text?_ofVariable`, `usualSpelling_eq_iff`: what a text becomes, and when it stays the same.
* `text_of_load_iff`: a setting is the text of its variable exactly when that text is not the
  unusual spelling of a truth value or number.
* `password_respelled`: a password of digits loses its zeros in front.
-/

namespace FaultRelay
namespace Settings

/-! ### Whole numbers -/

section Whole

/-- A whole number in its usual spelling: no plus sign, no zeros in front, no minus before zero. -/
def IsPlainWhole (cs : List Char) : Prop :=
  cs = ['0'] ∨ ∃ (sign : List Char) (c : Char) (ds : List Char),
    (sign = [] ∨ sign = ['-']) ∧ c.isDigit = true ∧ c ≠ '0' ∧ cs = sign ++ c :: ds

theorem digitsValue_concat (ds : List Char) (d : Char) :
    Decimal.digitsValue (ds ++ [d]) = 10 * Decimal.digitsValue ds + (d.toNat - 48) := by
  rw [Decimal.digitsValue, List.foldl_append, Decimal.digitsValue, Nat.mul_comm]
  rfl

theorem digitChar_of_isDigit {d : Char} (hd : d.isDigit = true) :
    d.toNat - 48 < 10 ∧ Nat.digitChar (d.toNat - 48) = d := by
  obtain ⟨hlow, hhigh⟩ : 48 ≤ d.toNat ∧ d.toNat ≤ 57 := Char.isDigit_iff_toNat.1 hd
  have hlt : d.toNat - 48 < 10 := by omega
  have hall : ∀ n : Fin 10, Nat.digitChar n.val = Char.ofNat (n.val + 48) := by decide
  refine ⟨hlt, ?_⟩
  have hchar : Nat.digitChar (d.toNat - 48) = Char.ofNat (d.toNat - 48 + 48) := hall ⟨_, hlt⟩
  rw [hchar, Nat.sub_add_cancel hlow, Char.ofNat_toNat]

/-- Digits that do not begin with a zero are those of a positive number. -/
theorem toDigits_digitsValue {c : Char} {ds : List Char} (hc : c ≠ '0')
    (hdigits : ∀ x ∈ c :: ds, x.isDigit = true) :
    0 < Decimal.digitsValue (c :: ds) ∧ Nat.toDigits 10 (Decimal.digitsValue (c :: ds)) = c :: ds := by
  induction ds using List.reverseRecOn with
  | nil =>
      obtain ⟨hlt, hchar⟩ := digitChar_of_isDigit (hdigits c List.mem_cons_self)
      have hvalue : Decimal.digitsValue [c] = c.toNat - 48 := by
        rw [← List.nil_append [c], digitsValue_concat]
        exact Nat.zero_add _
      have hpos : 0 < c.toNat - 48 := by
        refine Nat.pos_of_ne_zero fun hzero => hc ?_
        rw [← hchar, hzero]
        rfl
      rw [hvalue, Nat.toDigits_of_lt_base hlt, hchar]
      exact ⟨hpos, rfl⟩
  | append_singleton ds d ih =>
      rw [← List.cons_append] at hdigits ⊢
      obtain ⟨hpos, heq⟩ := ih fun x hx => hdigits x (List.mem_append_left _ hx)
      obtain ⟨hlt, hchar⟩ := digitChar_of_isDigit (hdigits d (by simp))
      rw [digitsValue_concat]
      refine ⟨by omega, ?_⟩
      rw [← Nat.toDigits_append_toDigits (by decide) hpos hlt, heq, Nat.toDigits_of_lt_base hlt,
        hchar]

theorem toDigits_digitsValue_iff {ds : List Char} (hdigits : ∀ x ∈ ds, x.isDigit = true) :
    Nat.toDigits 10 (Decimal.digitsValue ds) = ds ↔
      ds = ['0'] ∨ ∃ (c : Char) (more : List Char), c ≠ '0' ∧ ds = c :: more := by
  constructor
  · intro h
    rw [← h]
    exact Json.toDigits_cases _
  · rintro (rfl | ⟨c, more, hc, rfl⟩)
    · rfl
    · exact (toDigits_digitsValue hc hdigits).2

/-- What a whole number is read from: digits, behind a sign or not. -/
inductive Signed : List Char → Int → Prop
  | plain {ds : List Char} : ds ≠ [] → (∀ x ∈ ds, x.isDigit = true) →
      Signed ds (Decimal.digitsValue ds)
  | plus {ds : List Char} : ds ≠ [] → (∀ x ∈ ds, x.isDigit = true) →
      Signed ('+' :: ds) (Decimal.digitsValue ds)
  | minus {ds : List Char} : ds ≠ [] → (∀ x ∈ ds, x.isDigit = true) →
      Signed ('-' :: ds) (-(Decimal.digitsValue ds : Int))

theorem Signed.of_splitSign {cs ds : List Char} {negative : Bool}
    (hsign : Decimal.splitSign cs = (negative, ds)) (hne : ds ≠ [])
    (hdigits : ∀ x ∈ ds, x.isDigit = true) :
    Signed cs (if negative then -(Decimal.digitsValue ds : Int) else Decimal.digitsValue ds) := by
  unfold Decimal.splitSign at hsign
  split at hsign
  · cases hsign
    exact .minus hne hdigits
  · cases hsign
    exact .plus hne hdigits
  · cases hsign
    exact .plain hne hdigits

theorem signed_of_int? {low high n : Int} {text : String}
    (h : Decimal.int? low high text = some n) : Signed text.toList n := by
  rcases hsign : Decimal.splitSign text.toList with ⟨negative, ds⟩
  simp only [Decimal.int?, hsign, Option.ite_none_left_eq_some, Option.ite_none_right_eq_some,
    Option.some.injEq, Bool.or_eq_true, Bool.not_eq_true', not_or, Bool.not_eq_false,
    List.isEmpty_iff, List.all_eq_true] at h
  obtain ⟨⟨⟨hne, hdigits⟩, -⟩, -, rfl⟩ := h
  exact .of_splitSign hsign hne hdigits

theorem toList_toString_natCast (n : Nat) : (toString (n : Int)).toList = Nat.toDigits 10 n := by
  rw [Int.toString_eq_repr, Int.repr_eq_if, if_pos (Int.natCast_nonneg n), Nat.toList_repr]
  rfl

theorem toList_toString_neg {n : Nat} (h : 0 < n) :
    (toString (-(n : Int))).toList = '-' :: Nat.toDigits 10 n := by
  rw [Int.toString_eq_repr, Int.repr_eq_if, if_neg (by omega), String.toList_append,
    Nat.toList_repr, Int.neg_neg]
  rfl

/-- Digits do not begin with a sign. -/
theorem ne_cons_of_not_isDigit {c : Char} (hc : c.isDigit = false) (n : Nat) (cs : List Char) :
    Nat.toDigits 10 n ≠ c :: cs := by
  intro h
  have hdigit := Nat.isDigit_of_mem_toDigits (b := 10) (n := n) (c := c) (by decide) (by decide)
    (h ▸ List.mem_cons_self)
  rw [hc] at hdigit
  cases hdigit

theorem isPlainWhole_digits_iff {ds : List Char} (hdigits : ∀ x ∈ ds, x.isDigit = true) :
    IsPlainWhole ds ↔ ds = ['0'] ∨ ∃ (c : Char) (more : List Char), c ≠ '0' ∧ ds = c :: more := by
  refine or_congr_right ⟨?_, ?_⟩
  · rintro ⟨sign, c, more, rfl | rfl, -, hc, rfl⟩
    · exact ⟨c, more, hc, rfl⟩
    · have hminus := hdigits '-' List.mem_cons_self
      cases hminus
  · rintro ⟨c, more, hc, rfl⟩
    exact ⟨[], c, more, Or.inl rfl, hdigits c List.mem_cons_self, hc, rfl⟩

theorem not_isPlainWhole_plus (ds : List Char) : ¬IsPlainWhole ('+' :: ds) := by
  rintro (h | ⟨sign, c, more, rfl | rfl, hdigit, -, h⟩)
  · cases h
  · cases h
    cases hdigit
  · cases h

theorem isPlainWhole_minus_iff {ds : List Char} (hdigits : ∀ x ∈ ds, x.isDigit = true) :
    IsPlainWhole ('-' :: ds) ↔ ∃ (c : Char) (more : List Char), c ≠ '0' ∧ ds = c :: more := by
  constructor
  · rintro (h | ⟨sign, c, more, rfl | rfl, hdigit, hc, h⟩)
    · cases h
    · cases h
      cases hdigit
    · cases h
      exact ⟨c, more, hc, rfl⟩
  · rintro ⟨c, more, hc, rfl⟩
    exact Or.inr ⟨['-'], c, more, Or.inr rfl, hdigits c List.mem_cons_self, hc, rfl⟩

theorem Signed.toList_toString_iff {cs : List Char} {n : Int} (h : Signed cs n) :
    (toString n).toList = cs ↔ IsPlainWhole cs := by
  cases h with
  | plain hne hdigits =>
      rw [toList_toString_natCast, toDigits_digitsValue_iff hdigits, isPlainWhole_digits_iff hdigits]
  | @plus ds hne hdigits =>
      rw [toList_toString_natCast]
      exact iff_of_false (ne_cons_of_not_isDigit rfl _ ds) (not_isPlainWhole_plus ds)
  | @minus ds hne hdigits =>
      rw [isPlainWhole_minus_iff hdigits]
      rcases Nat.eq_zero_or_pos (Decimal.digitsValue ds) with hzero | hpos
      · -- A minus before zero is not written.
        rw [hzero]
        refine iff_of_false (ne_cons_of_not_isDigit rfl 0 ds) ?_
        rintro ⟨c, more, hc, rfl⟩
        exact Nat.ne_of_gt (toDigits_digitsValue hc hdigits).1 hzero
      · have hnotZero : ds ≠ ['0'] := by
          rintro rfl
          exact Nat.lt_irrefl 0 hpos
        rw [toList_toString_neg hpos, List.cons_inj_right, toDigits_digitsValue_iff hdigits]
        exact or_iff_right hnotZero

/-- A whole number is written as it was read exactly when it was read from its usual spelling. -/
theorem toString_eq_iff_of_int? {low high n : Int} {text : String}
    (h : Decimal.int? low high text = some n) :
    toString n = text ↔ IsPlainWhole text.toList := by
  rw [← String.toList_inj]
  exact (signed_of_int? h).toList_toString_iff

end Whole

/-! ### What a text looks like -/

section Guess

variable {s : String}

/-- A truth value in any case. -/
def IsTruth (s : String) : Prop :=
  s.toLower = "true" ∨ s.toLower = "false"

instance (s : String) : Decidable (IsTruth s) :=
  inferInstanceAs (Decidable (_ ∨ _))

/-- The whole number of sixty-four bits that a text looks like. -/
def int64? (s : String) : Option Int :=
  Decimal.int? (Decimal.signedRange 64).1 (Decimal.signedRange 64).2 s

/-- The usual spelling of the truth value or number that a text looks like; any other text itself. -/
def usualSpelling (s : String) : String :=
  if IsTruth s then s.toLower
  else match int64? s, Decimal.float? s with
    | some n, _ => toString n
    | none, some x => Decimal.floatText x
    | none, none => s

/-- A text that is an unusual spelling of what it looks like. -/
inductive IsUnusual (s : String) : Prop
  | truth : IsTruth s → s ≠ s.toLower → IsUnusual s
  | whole {n : Int} : ¬IsTruth s → int64? s = some n → ¬IsPlainWhole s.toList → IsUnusual s
  | real {x : Float} : ¬IsTruth s → int64? s = none → Decimal.float? s = some x →
      Decimal.floatText x ≠ s → IsUnusual s

theorem usualSpelling_eq_iff : usualSpelling s = s ↔ ¬IsUnusual s := by
  unfold usualSpelling
  split
  · next htruth =>
      constructor
      · rintro hsame (⟨-, hne⟩ | ⟨hnot, -, -⟩ | ⟨hnot, -, -, -⟩)
        · exact hne hsame.symm
        · exact hnot htruth
        · exact hnot htruth
      · intro husual
        by_contra hne
        exact husual (.truth htruth (Ne.symm hne))
  · next htruth =>
      split
      · next n hn =>
          have hwhole := toString_eq_iff_of_int? hn
          constructor
          · rintro hsame (⟨h, -⟩ | ⟨-, -, hnot⟩ | ⟨-, hnone, -, -⟩)
            · exact htruth h
            · exact hnot (hwhole.mp hsame)
            · rw [hnone] at hn
              cases hn
          · intro husual
            by_contra hne
            exact husual (.whole htruth hn fun hplain => hne (hwhole.mpr hplain))
      · next x hnone hx =>
          constructor
          · rintro hsame (⟨h, -⟩ | ⟨-, hn, -⟩ | ⟨-, -, hother, hne⟩)
            · exact htruth h
            · rw [hnone] at hn
              cases hn
            · rw [hx] at hother
              cases hother
              exact hne hsame
          · intro husual
            by_contra hne
            exact husual (.real htruth hnone hx hne)
      · next hnone hnot =>
          refine iff_of_true rfl ?_
          rintro (⟨h, -⟩ | ⟨-, hn, -⟩ | ⟨-, -, hx, -⟩)
          · exact htruth h
          · rw [hnone] at hn
            cases hn
          · rw [hnot] at hx
            cases hx

end Guess

namespace Tree

theorem isLeaf_ofVariable (s : String) : IsLeaf (ofVariable s) := by
  intro entries h
  unfold ofVariable at h
  split at h
  · cases h
  · cases h
  · split at h
    · cases h
    · split at h
      · cases h
      · cases h

/-- A variable is read as the usual spelling of its text. -/
theorem text?_ofVariable (s : String) : (ofVariable s).text? = some (usualSpelling s) := by
  unfold ofVariable
  split
  · next htrue =>
      have htruth : IsTruth s := Or.inl htrue
      rw [usualSpelling, if_pos htruth, htrue]
      rfl
  · next hfalse =>
      have htruth : IsTruth s := Or.inr hfalse
      rw [usualSpelling, if_pos htruth, hfalse]
      rfl
  · next htrue hfalse =>
      have htruth : ¬IsTruth s := not_or.mpr ⟨htrue, hfalse⟩
      rw [usualSpelling, if_neg htruth, int64?]
      split
      · next n hn =>
          rw [hn]
          rfl
      · next hnone =>
          rw [hnone]
          split
          · next x hx =>
              rw [hx]
              rfl
          · next hnot =>
              rw [hnot]
              rfl

/-- The name among the settings that a variable has. -/
def settingName? (variableName : String) : Option String :=
  (entryOfVariable? variableName "").map Prod.fst

theorem entryOfVariable?_eq (name value : String) :
    entryOfVariable? name value = (settingName? name).map fun key => (key, ofVariable value) := by
  simp only [settingName?, entryOfVariable?]
  split <;> rfl

/-- Where the value of a variable is put, when it is a setting. -/
def variablePath? (name : String) : Option (List String) :=
  (settingName? name).map pathOf

theorem mem_ofVariables_iff {environment : List (String × String)} {entry : String × Tree} :
    entry ∈ ofVariables environment ↔
      ∃ v ∈ environment, settingName? v.1 = some entry.1 ∧ entry.2 = ofVariable v.2 := by
  simp only [ofVariables, List.mem_filterMap]
  refine exists_congr fun v => and_congr_right fun _ => ?_
  rw [entryOfVariable?_eq, Option.map_eq_some_iff]
  constructor
  · rintro ⟨key, hkey, rfl⟩
    exact ⟨hkey, rfl⟩
  · rintro ⟨hkey, hvalue⟩
    exact ⟨entry.1, hkey, Prod.ext rfl hvalue.symm⟩

end Tree

/-! ### Settings from variables -/

theorem variablePath?_variableName (setting : TextSetting) :
    Tree.variablePath? setting.variableName = some setting.path := by
  cases setting <;> decide +kernel

/-- The variables are the last source. -/
theorem sources?_eq_some
    {files : Files} {environment : List (String × String)} {path : Option String}
    {sources : List (List (String × Tree))} (h : sources? files environment path = some sources) :
    ∃ earlier : List (List (String × Tree)),
      sources = earlier ++ [Tree.ofVariables environment] := by
  unfold sources? at h
  split at h
  · simp only [Option.bind_eq_bind, Option.bind_eq_some_iff, Option.pure_def,
      Option.some.injEq] at h
    obtain ⟨first, -, named, -, rfl⟩ := h
    exact ⟨first :: named, rfl⟩
  · simp only [Option.bind_eq_bind, Option.bind_eq_some_iff, Option.pure_def,
      Option.some.injEq] at h
    obtain ⟨first, -, named, -, rfl⟩ := h
    exact ⟨first :: named, rfl⟩

/-- The settings that are loaded are read from the variables, laid over everything else. -/
theorem exists_of_load {files : Files} {environment : List (String × String)} {path : Option String}
    {st : Settings} (h : load files environment path = .ok st) :
    ∃ target : List (String × Tree),
      Tree.settings? (Tree.overlay target (Tree.ofVariables environment)) = some st := by
  unfold load at h
  split at h
  · next s hs =>
      obtain ⟨sources, hsources, hread⟩ := Option.bind_eq_some_iff.mp hs
      obtain ⟨-, -, hst⟩ := bind_eq_ok.mp h
      cases hst
      obtain ⟨earlier, rfl⟩ := sources?_eq_some hsources
      rw [List.foldl_append] at hread
      exact ⟨_, hread⟩
  · cases h

/--
A setting that is a text becomes the usual spelling of the text of its variable.  It is that text
itself exactly when the text is not the unusual spelling of a truth value or number.
-/
theorem text_of_load_iff
    {files : Files} {environment : List (String × String)} {path : Option String} {st : Settings}
    (setting : TextSetting) (s : String)
    (hset : (setting.variableName, s) ∈ environment)
    (honly : ∀ v ∈ environment, ∀ names : List String, Tree.variablePath? v.1 = some names →
      names <+: setting.path → names = setting.path ∧ v.2 = s)
    (hload : load files environment path = .ok st) :
    setting.value st = some (usualSpelling s) ∧
      (setting.value st = some s ↔ ¬IsUnusual s) := by
  obtain ⟨target, hread⟩ := exists_of_load hload
  have hholds : Tree.Holds (Tree.overlay target (Tree.ofVariables environment)) setting.path
      (Tree.ofVariable s) := by
    refine Tree.holds_overlay ?_ ?_ ?_ (Or.inr ?_)
    · cases setting <;> exact List.cons_ne_nil _ _
    · rintro ⟨key, value⟩ hmem
      obtain ⟨v, -, -, rfl⟩ := Tree.mem_ofVariables_iff.mp hmem
      exact Tree.isLeaf_ofVariable v.2
    · rintro ⟨key, value⟩ hmem hbegins
      obtain ⟨v, hv, hkey, rfl⟩ := Tree.mem_ofVariables_iff.mp hmem
      obtain ⟨hnames, hsame⟩ :=
        honly v hv _ (Option.map_eq_some_iff.mpr ⟨key, hkey, rfl⟩) hbegins
      exact ⟨hnames, congrArg Tree.ofVariable hsame⟩
    · obtain ⟨key, hkey, hnames⟩ := Option.map_eq_some_iff.mp (variablePath?_variableName setting)
      exact ⟨(key, Tree.ofVariable s), Tree.mem_ofVariables_iff.mpr ⟨_, hset, hkey, rfl⟩, hnames⟩
  obtain ⟨found, hfound, hkind⟩ := hholds
  obtain ⟨hvalue, hleaf⟩ := text_read hread setting hfound
  have hsame : found = Tree.ofVariable s := by
    rcases hkind with hsame | ⟨entries, htable⟩
    · exact hsame
    · exact absurd htable (hleaf entries)
  rw [hsame, Tree.text?_ofVariable] at hvalue
  refine ⟨hvalue, ?_⟩
  rw [hvalue, Option.some.injEq]
  exact usualSpelling_eq_iff

/-- A user whose name looks like a number is loaded under its usual spelling. -/
theorem username_of_load :
    let environment : List (String × String) :=
      [("FAULT_BRIDGE__RETURN_QUEUE", "Retry.Return"),
        ("FAULT_BRIDGE__MAX_RETRIES", "3"),
        ("FAULT_BRIDGE__BROKER__AMQP__USERNAME", "+1.50")]
    ∃ st : Settings, load [] environment none = .ok st ∧ st.broker.amqp.username = some "1.5" := by
  intro environment
  have hset : (TextSetting.username.variableName, "+1.50") ∈ environment := by decide +kernel
  have honly : ∀ v ∈ environment, ∀ names ∈ Tree.variablePath? v.1,
      names <+: TextSetting.username.path →
        names = TextSetting.username.path ∧ v.2 = "+1.50" := by decide +kernel
  have hloads : (load [] environment none).toOption.isSome = true := by decide +kernel
  cases hload : load [] environment none with
  | error e =>
      rw [hload] at hloads
      cases hloads
  | ok st =>
      obtain ⟨hvalue, -⟩ := text_of_load_iff .username "+1.50" hset honly hload
      have hspelling : usualSpelling "+1.50" = "1.5" := by decide +kernel
      exact ⟨st, rfl, hvalue.trans (congrArg some hspelling)⟩

/-- A password of digits with zeros in front is loaded without them. -/
theorem password_respelled :
    (load [] [("FAULT_BRIDGE__RETURN_QUEUE", "Retry.Return"),
        ("FAULT_BRIDGE__BROKER__AMQP__PASSWORD", "007")] none).toOption.map
      (fun st => st.broker.amqp.password) = some (some "7") := by
  decide +kernel

end Settings
end FaultRelay
