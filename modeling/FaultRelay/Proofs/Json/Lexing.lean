import FaultRelay.Proofs.Json.Lexemes

/-!
# The lexemes of documents

**Rules.**
* `Lexed source ts`: octets that are some lexemes, with blanks around them.
* `Scan.Spells source ts`: octets that are read as some lexemes before anything that ends a value.
  A number is only complete with what comes after it.

**Results.**
* `lexed_of_tokens?`: what is read as some lexemes are these lexemes.
* `document_of_lexed`, `Scan.spells_document`: the lexemes of a document spell it, and are read
  from what spells it.
* `tokens?_eq_some_iff`: octets are read as the lexemes of a document exactly when they spell it.
-/

namespace FaultRelay
namespace Json

/-! ### What is lexed -/

/-- Octets that are some lexemes, with blanks around them. -/
inductive Lexed : List UInt8 → List Token → Prop
  | nil : Lexed [] []
  | blank {b : UInt8} {rest : List UInt8} {ts : List Token} (hb : IsBlank b)
      (hrest : Lexed rest ts) : Lexed (b :: rest) ts
  | lexeme {source rest : List UInt8} {t : Token} {ts : List Token} (hsource : Lexeme source t)
      (hrest : Lexed rest ts) : Lexed (source ++ rest) (t :: ts)

namespace Scan

/-- Octets that are some lexemes, the first of which may have begun before. -/
inductive Completes : Scan → List UInt8 → List Token → Prop
  | between {source : List UInt8} {ts : List Token} (hsource : Lexed source ts) :
      Completes between source ts
  | inside {s : Scan} {more rest : List UInt8} {t : Token} {ts : List Token}
      (hmore : s.Remainder more t) (hrest : Lexed rest ts) : Completes s (more ++ rest) (t :: ts)

section Soundness

variable {s s' : Scan} {b : UInt8} {source : List UInt8} {out ts : List Token}

theorem completes_of_finish? (h : s.finish? = some ts) : Completes s [] ts := by
  cases s with
  | between =>
      cases h
      exact .between .nil
  | number part source =>
      rw [finish?] at h
      split at h
      next hpart =>
        cases h
        exact .inside (remainder_nil_iff.2 ⟨part, source, rfl, hpart, rfl⟩) .nil
      next => cases h
  | _ => cases h

/-- Where a lexeme may begin, an octet is a blank or begins one. -/
theorem lexed_of_start
    (h : Completes s' source ts) (hstep : between.step? b = some (out, s')) :
    Lexed (b :: source) (out ++ ts) := by
  rw [step?, Option.map_eq_some_iff] at hstep
  obtain ⟨⟨o, s''⟩, hstart, heq⟩ := hstep
  cases heq
  cases begins_of_start? hstart with
  | blank hb =>
      cases h with
      | between hsource => exact .blank hb hsource
      | inside hmore => exact hmore.elim
  | whole ht =>
      cases h with
      | between hsource => exact .lexeme ht hsource
      | inside hmore => exact hmore.elim
  | part hinside hbegins =>
      cases h with
      | between => exact absurd rfl hinside
      | inside hmore hrest => exact .lexeme (hbegins _ _ hmore) hrest

/-- One octet before what is complete. -/
theorem completes_step
    (h : Completes s' source ts) (hstep : s.step? b = some (out, s')) :
    Completes s (b :: source) (out ++ ts) := by
  by_cases hs : s = between
  · subst hs
    exact .between (lexed_of_start h hstep)
  · cases advances_of_step? hs hstep with
    | last hlast =>
        cases h with
        | between hsource => exact .inside hlast hsource
        | inside hmore => exact hmore.elim
    | inner hinside hgoes =>
        cases h with
        | between => exact absurd rfl hinside
        | inside hmore hrest => exact .inside (hgoes _ _ hmore) hrest
    | after hwhole hstart => exact .inside hwhole (lexed_of_start h hstart)

theorem completes_of_run? (h : s.run? source = some ts) : Completes s source ts := by
  induction source generalizing s ts with
  | nil => exact completes_of_finish? h
  | cons b rest ih =>
      rw [run?_cons, Option.bind_eq_some_iff] at h
      obtain ⟨⟨out, s'⟩, hstep, hrest⟩ := h
      rw [Option.map_eq_some_iff] at hrest
      obtain ⟨others, hrun, rfl⟩ := hrest
      exact completes_step (ih hrun) hstep

end Soundness
end Scan

/-- The lexemes of a document are in it, with blanks around them. -/
theorem lexed_of_tokens? {source : List UInt8} {ts : List Token} (h : tokens? source = some ts) :
    Lexed source ts := by
  cases Scan.completes_of_run? h with
  | between hsource => exact hsource
  | inside hmore => exact hmore.elim

/-! ### The lexemes of a document -/

mutual

/-- The lexemes of a document. -/
def Node.tokens : Node → List Token
  | .null => [.null]
  | .bool b => [.bool b]
  | .number source => [.number source]
  | .quoted source => [.quoted source]
  | .list items => .beginList :: (itemTokens items ++ [.endList])
  | .record members => .beginRecord :: (memberTokens members ++ [.endRecord])

/-- The lexemes of items with commas between them. -/
def itemTokens : List Node → List Token
  | [] => []
  | [v] => v.tokens
  | v :: rest => v.tokens ++ .comma :: itemTokens rest

/-- The lexemes of members with commas between them. -/
def memberTokens : List (List UInt8 × Node) → List Token
  | [] => []
  | [(key, v)] => .quoted key :: .colon :: v.tokens
  | (key, v) :: rest => .quoted key :: .colon :: (v.tokens ++ .comma :: memberTokens rest)

end

theorem itemTokens_cons {v : Node} {vs : List Node} (hne : vs ≠ []) :
    itemTokens (v :: vs) = v.tokens ++ .comma :: itemTokens vs := by
  cases vs with
  | nil => exact absurd rfl hne
  | cons w ws => rw [itemTokens]; simp

theorem memberTokens_cons
    {key : List UInt8} {v : Node} {members : List (List UInt8 × Node)} (hne : members ≠ []) :
    memberTokens ((key, v) :: members) =
      .quoted key :: .colon :: (v.tokens ++ .comma :: memberTokens members) := by
  cases members with
  | nil => exact absurd rfl hne
  | cons p ps => rw [memberTokens]; simp

section Parts

variable {source : List UInt8} {t : Token} {ts us : List Token}

theorem blanks_of_lexed (h : Lexed source []) : Blanks source := by
  generalize hts : ([] : List Token) = ts at h
  induction h with
  | nil => simp [Blanks]
  | blank hb _ ih => exact List.forall_mem_cons.2 ⟨hb, ih hts⟩
  | lexeme => cases hts

/-- One lexeme, and what is before and after it. -/
theorem Lexed.split (h : Lexed source (ts ++ t :: us)) :
    ∃ before lexeme after : List UInt8, source = before ++ (lexeme ++ after) ∧
      Lexed before ts ∧ Lexeme lexeme t ∧ Lexed after us := by
  generalize hall : ts ++ t :: us = all at h
  induction h generalizing ts with
  | nil => simp at hall
  | blank hb _ ih =>
      obtain ⟨before, lexeme, after, rfl, hbefore, hlexeme, hafter⟩ := ih hall
      exact ⟨_ :: before, lexeme, after, rfl, .blank hb hbefore, hlexeme, hafter⟩
  | @lexeme first rest u _ hfirst hrest ih =>
      cases ts with
      | nil =>
          cases hall
          exact ⟨[], first, rest, rfl, .nil, hfirst, hrest⟩
      | cons v ts =>
          rw [List.cons_append, List.cons.injEq] at hall
          obtain ⟨rfl, hall⟩ := hall
          obtain ⟨before, lexeme, after, rfl, hbefore, hlexeme, hafter⟩ := ih hall
          exact ⟨first ++ before, lexeme, after, by simp, .lexeme hfirst hbefore, hlexeme, hafter⟩

/-- The first lexeme, with the blanks before it. -/
theorem Lexed.first (h : Lexed source (t :: us)) :
    ∃ before lexeme after : List UInt8, source = before ++ (lexeme ++ after) ∧
      Blanks before ∧ Lexeme lexeme t ∧ Lexed after us := by
  obtain ⟨before, lexeme, after, heq, hbefore, hlexeme, hafter⟩ :=
    Lexed.split (show Lexed source ([] ++ t :: us) from h)
  exact ⟨before, lexeme, after, heq, blanks_of_lexed hbefore, hlexeme, hafter⟩

/-- One lexeme alone. -/
theorem Lexed.single (h : Lexed source [t]) :
    ∃ before lexeme after : List UInt8, source = before ++ (lexeme ++ after) ∧
      Blanks before ∧ Lexeme lexeme t ∧ Blanks after := by
  obtain ⟨before, lexeme, after, heq, hbefore, hlexeme, hafter⟩ := h.first
  exact ⟨before, lexeme, after, heq, hbefore, hlexeme, blanks_of_lexed hafter⟩

/-- What stands between two lexemes. -/
theorem Lexed.inner {u : Token} (h : Lexed source (t :: (ts ++ [u]))) :
    ∃ before opening inner closing after : List UInt8,
      source = before ++ ((opening ++ (inner ++ closing)) ++ after) ∧
      Blanks before ∧ Lexeme opening t ∧ Lexed inner ts ∧ Lexeme closing u ∧ Blanks after := by
  obtain ⟨before, opening, rest, rfl, hbefore, hopening, hrest⟩ := h.first
  obtain ⟨inner, closing, after, rfl, hinner, hclosing, hafter⟩ := hrest.split
  exact ⟨before, opening, inner, closing, after, by simp, hbefore, hopening, hinner, hclosing,
    blanks_of_lexed hafter⟩

/-- A key and its colon. -/
theorem Lexed.key {key : List UInt8} (h : Lexed source (.quoted key :: .colon :: us)) :
    ∃ name rest : List UInt8, source = name ++ 0x3A :: rest ∧ Key name key ∧ Lexed rest us := by
  obtain ⟨before, quoted, rest, rfl, hbefore, hquoted, hrest⟩ := h.first
  obtain ⟨blanks, colon, after, rfl, hblanks, hcolon, hafter⟩ := hrest.first
  cases hquoted with
  | quoted hkey =>
      cases hcolon
      exact ⟨_, after, by simp, .intro hbefore hkey hblanks, hafter⟩

end Parts

mutual

/-- Octets that are the lexemes of a document spell it. -/
theorem document_of_lexed : (node : Node) → {source : List UInt8} →
    Lexed source node.tokens → Document source node
  | .null, source, h => by
      obtain ⟨before, lexeme, after, rfl, hbefore, hlexeme, hafter⟩ := h.single
      cases hlexeme
      exact .intro hbefore .null hafter
  | .bool true, source, h => by
      obtain ⟨before, lexeme, after, rfl, hbefore, hlexeme, hafter⟩ := h.single
      cases hlexeme
      exact .intro hbefore .true hafter
  | .bool false, source, h => by
      obtain ⟨before, lexeme, after, rfl, hbefore, hlexeme, hafter⟩ := h.single
      cases hlexeme
      exact .intro hbefore .false hafter
  | .number n, source, h => by
      obtain ⟨before, lexeme, after, rfl, hbefore, hlexeme, hafter⟩ := h.single
      cases hlexeme with
      | number hn => exact .intro hbefore (.number hn) hafter
  | .quoted q, source, h => by
      obtain ⟨before, lexeme, after, rfl, hbefore, hlexeme, hafter⟩ := h.single
      cases hlexeme with
      | quoted hq => exact .intro hbefore (.quoted hq) hafter
  | .list [], source, h => by
      obtain ⟨before, _, inner, _, after, rfl, hbefore, hopen, hinner, hclose, hafter⟩ := h.inner
      cases hopen
      cases hclose
      exact .intro hbefore (.emptyList (blanks_of_lexed hinner)) hafter
  | .list (v :: vs), source, h => by
      obtain ⟨before, _, inner, _, after, rfl, hbefore, hopen, hinner, hclose, hafter⟩ := h.inner
      cases hopen
      cases hclose
      exact .intro hbefore (.list (items_of_lexed (v :: vs) (by simp) hinner)) hafter
  | .record [], source, h => by
      obtain ⟨before, _, inner, _, after, rfl, hbefore, hopen, hinner, hclose, hafter⟩ := h.inner
      cases hopen
      cases hclose
      exact .intro hbefore (.emptyRecord (blanks_of_lexed hinner)) hafter
  | .record (p :: ps), source, h => by
      obtain ⟨before, _, inner, _, after, rfl, hbefore, hopen, hinner, hclose, hafter⟩ := h.inner
      cases hopen
      cases hclose
      exact .intro hbefore (.record (members_of_lexed (p :: ps) (by simp) hinner)) hafter

theorem items_of_lexed : (items : List Node) → items ≠ [] → {source : List UInt8} →
    Lexed source (itemTokens items) → Items source items
  | [], hne, _, _ => absurd rfl hne
  | [v], _, source, h => .one (document_of_lexed v h)
  | v :: w :: vs, _, source, h => by
      obtain ⟨before, lexeme, after, rfl, hbefore, hlexeme, hafter⟩ := h.split
      cases hlexeme
      exact .cons (document_of_lexed v hbefore) (items_of_lexed (w :: vs) (by simp) hafter)

theorem members_of_lexed : (members : List (List UInt8 × Node)) → members ≠ [] →
    {source : List UInt8} → Lexed source (memberTokens members) → Members source members
  | [], hne, _, _ => absurd rfl hne
  | [(key, v)], _, source, h => by
      obtain ⟨name, rest, rfl, hname, hrest⟩ := h.key
      exact .one hname (document_of_lexed v hrest)
  | (key, v) :: p :: ps, _, source, h => by
      obtain ⟨name, rest, rfl, hname, hrest⟩ := h.key
      obtain ⟨before, lexeme, after, rfl, hbefore, hlexeme, hafter⟩ := hrest.split
      cases hlexeme
      exact .cons hname (document_of_lexed v hbefore)
        (members_of_lexed (p :: ps) (by simp) hafter)

end

/-! ### Documents are lexed -/

namespace Scan

/-- What may come right after a value or a key: nothing, a blank or a sign. -/
def Ends (rest : List UInt8) : Prop :=
  rest = [] ∨ ∃ b more, rest = b :: more ∧ b ∈ [0x20, 0x0A, 0x0D, 0x09, 0x2C, 0x3A, 0x5D, 0x7D]

/-- Octets that spell a value, or values with commas between them. -/
def Spells (source : List UInt8) (tokens : List Token) : Prop :=
  ∀ rest : List UInt8, Ends rest →
    between.run? (source ++ rest) = (between.run? rest).map (tokens ++ ·)

section Completeness

variable {source more rest : List UInt8} {t : Token} {ts us : List Token}

theorem Ends.append (h : Ends source) (hne : source ≠ []) : Ends (source ++ rest) := by
  obtain rfl | ⟨b, others, rfl, hb⟩ := h
  · exact absurd rfl hne
  · exact .inr ⟨b, others ++ rest, rfl, hb⟩

/-- What ends a value ends a number that may end there. -/
theorem run?_number
    {part : NumberPart} (hpart : part.complete = true) (h : Ends rest) :
    (number part source).run? rest = (between.run? rest).map (.number source.reverse :: ·) := by
  rcases h with rfl | ⟨b, more, rfl, hb⟩
  · simp only [run?, finish?, hpart, if_true, Option.map_some]
  · have hnext : part.next? (Char.ofNat b.toNat) = none := by
      simp only [List.mem_cons, List.not_mem_nil, or_false] at hb
      cases part with
      | sign => cases hpart
      | point => cases hpart
      | exponent => cases hpart
      | exponentSign => cases hpart
      | _ => rcases hb with rfl | rfl | rfl | rfl | rfl | rfl | rfl | rfl <;> rfl
    have hstep : (number part source).step? b =
        (between.step? b).map fun p => (.number source.reverse :: p.1, p.2) := by
      simp only [step?, hnext, hpart, if_true, Option.map_map]
      rfl
    rw [run?_cons, run?_cons, hstep]
    cases between.step? b with
    | none => rfl
    | some p =>
        simp only [Option.map_some, Option.bind_some, Option.map_map]
        rfl

/-- A lexeme that has begun is completed by what may still come of it. -/
theorem run?_remainder {s : Scan} (hmore : s.Remainder more t) (hrest : Ends rest) :
    s.run? (more ++ rest) = (between.run? rest).map (t :: ·) := by
  induction more generalizing s with
  | nil =>
      obtain ⟨part, source, rfl, hpart, rfl⟩ := remainder_nil_iff.1 hmore
      exact run?_number hpart hrest
  | cons b more ih =>
      rw [List.cons_append, run?_cons]
      obtain ⟨hstep, rfl⟩ | ⟨s', hstep, hmore'⟩ := hmore.next
      · rw [hstep]
        rfl
      · rw [hstep, Option.bind_some, ih hmore', Option.map_map]
        rfl

theorem spells_lexeme (h : Lexeme source t) : Spells source [t] := by
  intro rest hrest
  obtain ⟨b, more, rfl, ⟨hstart, rfl⟩ | ⟨s, hstart, hmore⟩⟩ := start?_of_lexeme h
  · have hstep : between.step? b = some ([t], between) := by
      rw [step?, hstart]
      rfl
    exact reads_of_step? hstep rest
  · have hstep : between.step? b = some ([], s) := by
      rw [step?, hstart]
      rfl
    rw [List.cons_append, run?_cons, hstep, Option.bind_some, run?_remainder hmore hrest,
      Option.map_map]
    rfl

/-- Blanks are passed over. -/
theorem reads_blanks {blanks : List UInt8} (h : Blanks blanks) :
    between.Reads blanks [] between := by
  induction blanks with
  | nil => exact .nil _
  | cons b blanks ih =>
      rw [Blanks, List.forall_mem_cons] at h
      obtain ⟨hb, hblanks⟩ := h
      have hstep : between.step? b = some ([], between) := by
        simp only [IsBlank, List.mem_cons, List.not_mem_nil, or_false] at hb
        obtain rfl | rfl | rfl | rfl := hb <;> rfl
      exact .cons hstep (ih hblanks)

theorem Reads.spells (h : between.Reads source ts between) : Spells source ts :=
  fun rest _ => h rest

theorem Spells.after
    (h : between.Reads source ts between) (h' : Spells more us) :
    Spells (source ++ more) (ts ++ us) := by
  intro rest hrest
  rw [List.append_assoc, h, h' rest hrest, Option.map_map]
  congr 1
  funext t
  simp

/-- What ends a value ends what is spelled before it. -/
theorem Spells.append
    (h : Spells source ts) (h' : Spells more us) (hends : Ends more) :
    Spells (source ++ more) (ts ++ us) := by
  intro rest hrest
  have hboth : Ends (more ++ rest) := by
    by_cases hmore : more = []
    · rwa [hmore]
    · exact hends.append hmore
  rw [List.append_assoc, h _ hboth, h' rest hrest, Option.map_map]
  congr 1
  funext t
  simp

theorem Spells.blanks {blanks : List UInt8} (h : Spells source ts) (hblanks : Blanks blanks) :
    Spells (source ++ blanks) ts := by
  have hends : Ends blanks := by
    cases blanks with
    | nil => exact .inl rfl
    | cons b blanks =>
        have hb := hblanks b List.mem_cons_self
        refine .inr ⟨b, blanks, rfl, ?_⟩
        simp only [IsBlank, List.mem_cons, List.not_mem_nil, or_false] at hb ⊢
        tauto
  have hall := h.append (reads_blanks hblanks).spells hends
  rwa [List.append_nil] at hall

theorem Spells.comma (h : Spells source ts) (h' : Spells more us) :
    Spells (source ++ 0x2C :: more) (ts ++ .comma :: us) := by
  have hstep : between.step? 0x2C = some ([.comma], between) := rfl
  exact h.append (.after (reads_of_step? hstep) h') (.inr ⟨_, _, rfl, by decide⟩)

/-- Signs around what is spelled. -/
theorem Spells.inside
    {b b' : UInt8} {u : Token} (hb : between.step? b = some ([t], between))
    (hb' : between.step? b' = some ([u], between)) (hends : b' = 0x5D ∨ b' = 0x7D)
    (h : Spells source ts) : Spells (b :: (source ++ [b'])) (t :: (ts ++ [u])) := by
  have hclose : Ends [b'] := by
    obtain rfl | rfl := hends
    · exact .inr ⟨_, _, rfl, by decide⟩
    · exact .inr ⟨_, _, rfl, by decide⟩
  exact .after (reads_of_step? hb) (h.append (reads_of_step? hb').spells hclose)

theorem Spells.key {name key : List UInt8} (hname : Key name key) (h : Spells source ts) :
    Spells (name ++ 0x3A :: source) (.quoted key :: .colon :: ts) := by
  obtain @⟨before, key, after, hbefore, hkey, hafter⟩ := hname
  have hstep : between.step? 0x3A = some ([.colon], between) := rfl
  have hquoted := (spells_lexeme (.quoted hkey)).blanks hafter
  have hall := hquoted.append (.after (reads_of_step? hstep) h) (.inr ⟨_, _, rfl, by decide⟩)
  have hwhole := Spells.after (reads_blanks hbefore) hall
  simpa using hwhole

end Completeness

mutual

/-- The octets of a document spell its lexemes. -/
theorem spells_document {source : List UInt8} {node : Node} :
    Document source node → Spells source node.tokens
  | .intro hbefore hsource hafter =>
      .after (reads_blanks hbefore) ((spells_spelling hsource).blanks hafter)

theorem spells_spelling {source : List UInt8} {node : Node} :
    Spelling source node → Spells source node.tokens
  | .null => spells_lexeme .null
  | .true => spells_lexeme .true
  | .false => spells_lexeme .false
  | .number hsource => spells_lexeme (.number hsource)
  | .quoted hsource => spells_lexeme (.quoted hsource)
  | .emptyList hblanks =>
      .inside rfl rfl (.inl rfl) (reads_blanks hblanks).spells
  | .list hitems => .inside rfl rfl (.inl rfl) (spells_items hitems)
  | .emptyRecord hblanks =>
      .inside rfl rfl (.inr rfl) (reads_blanks hblanks).spells
  | .record hmembers => .inside rfl rfl (.inr rfl) (spells_members hmembers)

theorem spells_items {source : List UInt8} {items : List Node} :
    Items source items → Spells source (itemTokens items)
  | .one hsource => spells_document hsource
  | .cons hsource hrest => by
      rw [itemTokens_cons hrest.ne_nil]
      exact (spells_document hsource).comma (spells_items hrest)

theorem spells_members {source : List UInt8} {members : List (List UInt8 × Node)} :
    Members source members → Spells source (memberTokens members)
  | .one hname hsource => .key hname (spells_document hsource)
  | .cons hname hsource hrest => by
      rw [memberTokens_cons hrest.ne_nil]
      exact .key hname ((spells_document hsource).comma (spells_members hrest))

end

end Scan

/-- Octets are lexed as a document exactly when they spell it. -/
theorem tokens?_eq_some_iff {source : List UInt8} {node : Node} :
    tokens? source = some node.tokens ↔ Document source node := by
  constructor
  · exact fun h => document_of_lexed node (lexed_of_tokens? h)
  · intro h
    have hrun := Scan.spells_document h [] (.inl rfl)
    rw [List.append_nil] at hrun
    rw [tokens?, hrun]
    exact congrArg some (List.append_nil _)

end Json
end FaultRelay
