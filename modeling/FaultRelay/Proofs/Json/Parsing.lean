import FaultRelay.Proofs.Json.Lexing

/-!
# Documents are read from their lexemes

**Invariant.** `Reading.Stands r ts`: a document that is partly read has had the lexemes `ts`.

**Results.**
* `Reading.Stands.step`: one lexeme keeps the invariant.
* `Reading.run?_eq_some_iff`: the lexemes of a document are read as that document, and no others
  are.
* `read?_eq_some_iff`: so are the octets that spell it.
-/

namespace FaultRelay
namespace Json
namespace Reading

/-- Items with a comma after each. -/
def itemsBefore (items : List Node) : List Token :=
  items.flatMap fun v => v.tokens ++ [.comma]

/-- Members with a comma after each. -/
def membersBefore (members : List (List UInt8 × Node)) : List Token :=
  members.flatMap fun p => .quoted p.1 :: .colon :: (p.2.tokens ++ [.comma])

/-- The lexemes of open lists and records, up to where the next value begins. -/
def opened : List Frame → List Token
  | [] => []
  | .list items :: outer => opened outer ++ .beginList :: itemsBefore items.reverse
  | .record members key :: outer =>
      opened outer ++ .beginRecord :: (membersBefore members.reverse ++ [.quoted key, .colon])

/-- The lexemes that a document has had when it is partly read. -/
inductive Stands : Reading → List Token → Prop
  | value {frames : List Frame} : Stands ⟨frames, .value⟩ (opened frames)
  | valueOrEnd {outer : List Frame} :
      Stands ⟨.list [] :: outer, .valueOrEnd⟩ (opened outer ++ [.beginList])
  | keyOrEnd {frames : List Frame} :
      Stands ⟨frames, .keyOrEnd⟩ (opened frames ++ [.beginRecord])
  | key {frames : List Frame} {members : List (List UInt8 × Node)} :
      Stands ⟨frames, .key members⟩
        (opened frames ++ .beginRecord :: membersBefore members.reverse)
  | colon {frames : List Frame} {members : List (List UInt8 × Node)} {key : List UInt8} :
      Stands ⟨frames, .colon members key⟩
        (opened frames ++ .beginRecord :: (membersBefore members.reverse ++ [.quoted key]))
  | item {outer : List Frame} {items : List Node} {v : Node} :
      Stands ⟨.list (v :: items) :: outer, .commaOrEnd⟩ (opened (.list items :: outer) ++ v.tokens)
  | member {outer : List Frame} {members : List (List UInt8 × Node)} {key : List UInt8}
      {v : Node} :
      Stands ⟨.record ((key, v) :: members) key :: outer, .commaOrEnd⟩
        (opened (.record members key :: outer) ++ v.tokens)
  | nothing {document : Node} : Stands ⟨[], .nothing document⟩ document.tokens

theorem stands_place (frames : List Frame) (v : Node) :
    Stands (place frames v) (opened frames ++ v.tokens) := by
  match frames with
  | [] => exact .nothing
  | .list items :: outer => exact .item
  | .record members key :: outer => exact .member

theorem itemTokens_concat (items : List Node) (v : Node) :
    itemTokens (items ++ [v]) = itemsBefore items ++ v.tokens := by
  induction items with
  | nil => rfl
  | cons w ws ih =>
      rw [List.cons_append, itemTokens_cons (by simp), ih]
      simp [itemsBefore]

theorem memberTokens_concat
    (members : List (List UInt8 × Node)) (key : List UInt8) (v : Node) :
    memberTokens (members ++ [(key, v)]) =
      membersBefore members ++ .quoted key :: .colon :: v.tokens := by
  induction members with
  | nil => rfl
  | cons p ps ih =>
      obtain ⟨name, w⟩ := p
      rw [List.cons_append, memberTokens_cons (by simp), ih]
      simp [membersBefore]

/-- A value that begins. -/
theorem stands_value
    {frames : List Frame} {t : Token} {r : Reading} (h : value? frames t = some r) :
    Stands r (opened frames ++ [t]) := by
  cases t with
  | null => cases h; exact stands_place frames .null
  | bool b => cases h; exact stands_place frames (.bool b)
  | number source => cases h; exact stands_place frames (.number source)
  | quoted source => cases h; exact stands_place frames (.quoted source)
  | beginList => cases h; exact .valueOrEnd
  | beginRecord => cases h; exact .keyOrEnd
  | _ => cases h

/-- One lexeme. -/
theorem Stands.step
    {r r' : Reading} {ts : List Token} {t : Token} (h : Stands r ts) (hstep : r.step? t = some r') :
    Stands r' (ts ++ [t]) := by
  cases h with
  | value => exact stands_value hstep
  | @valueOrEnd outer =>
      by_cases hend : t = .endList
      · subst hend
        cases hstep
        have hplaced := stands_place outer (.list [])
        simpa [Node.tokens, itemTokens] using hplaced
      · have hvalue : value? (.list [] :: outer) t = some r' := by
          cases t <;> first | exact hstep | exact absurd rfl hend
        exact stands_value hvalue
  | @keyOrEnd frames =>
      cases t with
      | endRecord =>
          cases hstep
          have hplaced := stands_place frames (.record [])
          simpa [Node.tokens, memberTokens] using hplaced
      | quoted key =>
          cases hstep
          have hcolon : Stands ⟨frames, .colon [] key⟩ _ := .colon
          simpa [membersBefore] using hcolon
      | _ => cases hstep
  | @key frames members =>
      cases t with
      | quoted key =>
          cases hstep
          have hcolon : Stands ⟨frames, .colon members key⟩ _ := .colon
          simpa using hcolon
      | _ => cases hstep
  | @colon frames members key =>
      cases t with
      | colon =>
          cases hstep
          have hvalue : Stands ⟨.record members key :: frames, .value⟩ _ := .value
          simpa [opened] using hvalue
      | _ => cases hstep
  | @item outer items v =>
      cases t with
      | comma =>
          cases hstep
          have hvalue : Stands ⟨.list (v :: items) :: outer, .value⟩ _ := .value
          simpa [opened, itemsBefore] using hvalue
      | endList =>
          cases hstep
          have hplaced := stands_place outer (.list (v :: items).reverse)
          rw [List.reverse_cons, Node.tokens, itemTokens_concat] at hplaced
          simpa [opened] using hplaced
      | _ => cases hstep
  | @member outer members key v =>
      cases t with
      | comma =>
          cases hstep
          have hkey : Stands ⟨outer, .key ((key, v) :: members)⟩ _ := .key
          simpa [opened, membersBefore] using hkey
      | endRecord =>
          cases hstep
          have hplaced := stands_place outer (.record ((key, v) :: members).reverse)
          rw [List.reverse_cons, Node.tokens, memberTokens_concat] at hplaced
          simpa [opened] using hplaced
      | _ => cases hstep
  | nothing => cases t <;> cases hstep

/-- What is read as a document are its lexemes. -/
theorem Stands.run {r : Reading} {before ts : List Token} {node : Node} (h : Stands r before)
    (hrun : r.run? ts = some node) : before ++ ts = node.tokens := by
  induction ts generalizing r before with
  | nil =>
      cases h with
      | nothing =>
          cases hrun
          exact List.append_nil _
      | _ => simp [run?] at hrun
  | cons t ts ih =>
      rw [run?] at hrun
      obtain ⟨r', hstep, hrest⟩ := Option.bind_eq_some_iff.1 hrun
      rw [← ih (h.step hstep) hrest, List.append_assoc]
      rfl

/-! ### Lexemes of documents are read -/

theorem run?_cons (r : Reading) (token : Token) (rest : List Token) :
    r.run? (token :: rest) = (r.step? token).bind fun r => r.run? rest := by
  rw [run?]
  rfl

theorem run?_key
    (before : List (List UInt8 × Node)) (key : List UInt8) (frames : List Frame)
    (rest : List Token) :
    run? ⟨frames, .key before⟩ (.quoted key :: .colon :: rest) =
      run? ⟨.record before key :: frames, .value⟩ rest := by
  rw [run?_cons]
  simp only [step?, Option.bind_some]
  rw [run?_cons]
  rfl

/-- A value may stand where its list might end. -/
theorem run?_valueOrEnd (v : Node) (vs : List Node) (frames : List Frame) (rest : List Token) :
    run? ⟨.list [] :: frames, .valueOrEnd⟩ (itemTokens (v :: vs) ++ rest) =
      run? ⟨.list [] :: frames, .value⟩ (itemTokens (v :: vs) ++ rest) := by
  have hhead : ∃ more, itemTokens (v :: vs) = v.tokens ++ more := by
    cases vs with
    | nil => exact ⟨[], by rw [itemTokens, List.append_nil]⟩
    | cons w ws => exact ⟨_, itemTokens_cons (by simp)⟩
  obtain ⟨more, hmore⟩ := hhead
  rw [hmore, List.append_assoc]
  cases v <;> rfl

/-- A member may stand where its record might end. -/
theorem run?_keyOrEnd
    (p : List UInt8 × Node) (ps : List (List UInt8 × Node)) (frames : List Frame)
    (rest : List Token) :
    run? ⟨frames, .keyOrEnd⟩ (memberTokens (p :: ps) ++ rest) =
      run? ⟨frames, .key []⟩ (memberTokens (p :: ps) ++ rest) := by
  have hhead : ∃ more, memberTokens (p :: ps) = .quoted p.1 :: more := by
    cases ps with
    | nil => exact ⟨_, rfl⟩
    | cons q qs => exact ⟨_, memberTokens_cons (by simp)⟩
  obtain ⟨more, hmore⟩ := hhead
  rw [hmore, List.cons_append, run?_cons, run?_cons]
  rfl

mutual

/-- The lexemes of a value are read as that value, wherever it stands. -/
theorem run?_tokens : (v : Node) → (frames : List Frame) → (rest : List Token) →
    run? ⟨frames, .value⟩ (v.tokens ++ rest) = (place frames v).run? rest
  | .null, frames, rest => run?_cons ⟨frames, .value⟩ .null rest
  | .bool b, frames, rest => run?_cons ⟨frames, .value⟩ (.bool b) rest
  | .number source, frames, rest => run?_cons ⟨frames, .value⟩ (.number source) rest
  | .quoted source, frames, rest => run?_cons ⟨frames, .value⟩ (.quoted source) rest
  | .list [], frames, rest => by
      have htokens : (Node.list []).tokens ++ rest = .beginList :: .endList :: rest := rfl
      rw [htokens, run?_cons]
      simp only [step?, value?, Option.bind_some]
      rw [run?_cons]
      rfl
  | .list (v :: vs), frames, rest => by
      have hopen : run? ⟨frames, .value⟩ ((Node.list (v :: vs)).tokens ++ rest) =
          run? ⟨.list [] :: frames, .value⟩ (itemTokens (v :: vs) ++ .endList :: rest) := by
        rw [← run?_valueOrEnd, Node.tokens, List.cons_append, List.append_assoc, run?_cons]
        rfl
      rw [hopen, run?_itemTokens (v :: vs) (by simp)]
      rfl
  | .record [], frames, rest => by
      have htokens : (Node.record []).tokens ++ rest = .beginRecord :: .endRecord :: rest := rfl
      rw [htokens, run?_cons]
      simp only [step?, value?, Option.bind_some]
      rw [run?_cons]
      rfl
  | .record (p :: ps), frames, rest => by
      have hopen : run? ⟨frames, .value⟩ ((Node.record (p :: ps)).tokens ++ rest) =
          run? ⟨frames, .key []⟩ (memberTokens (p :: ps) ++ .endRecord :: rest) := by
        rw [← run?_keyOrEnd, Node.tokens, List.cons_append, List.append_assoc, run?_cons]
        rfl
      rw [hopen, run?_memberTokens (p :: ps) (by simp)]
      rfl

theorem run?_itemTokens : (items : List Node) → items ≠ [] →
    (before : List Node) → (frames : List Frame) → (rest : List Token) →
    run? ⟨.list before :: frames, .value⟩ (itemTokens items ++ .endList :: rest) =
      (place frames (.list (before.reverse ++ items))).run? rest
  | [], h, _, _, _ => absurd rfl h
  | [v], _, before, frames, rest => by
      rw [itemTokens, run?_tokens v, place, run?_cons]
      simp only [step?, List.reverse_cons, Option.bind_some]
  | v :: w :: rest, _, before, frames, after => by
      have hrest := run?_itemTokens (w :: rest) (by simp) (v :: before) frames after
      rw [itemTokens_cons (by simp), List.append_assoc, List.cons_append, run?_tokens v, place,
        run?_cons]
      simp only [step?, Option.bind_some]
      rw [hrest, List.reverse_cons, List.append_assoc]
      rfl

theorem run?_memberTokens : (members : List (List UInt8 × Node)) → members ≠ [] →
    (before : List (List UInt8 × Node)) → (frames : List Frame) → (rest : List Token) →
    run? ⟨frames, .key before⟩ (memberTokens members ++ .endRecord :: rest) =
      (place frames (.record (before.reverse ++ members))).run? rest
  | [], h, _, _, _ => absurd rfl h
  | [(key, v)], _, before, frames, rest => by
      have hkey : run? ⟨frames, .key before⟩ (memberTokens [(key, v)] ++ .endRecord :: rest) =
          run? ⟨.record before key :: frames, .value⟩ (v.tokens ++ .endRecord :: rest) :=
        run?_key before _ frames _
      rw [hkey, run?_tokens v, place, run?_cons]
      simp only [step?, List.reverse_cons, Option.bind_some]
  | (key, v) :: p :: ps, _, before, frames, after => by
      have hkey : run? ⟨frames, .key before⟩
            (memberTokens ((key, v) :: p :: ps) ++ .endRecord :: after) =
          run? ⟨.record before key :: frames, .value⟩
            (v.tokens ++ .comma :: (memberTokens (p :: ps) ++ .endRecord :: after)) := by
        rw [memberTokens_cons (by simp), List.cons_append, List.cons_append, List.append_assoc,
          List.cons_append]
        exact run?_key before _ frames _
      have hrest := run?_memberTokens (p :: ps) (by simp) ((key, v) :: before) frames after
      rw [hkey, run?_tokens v, place, run?_cons]
      simp only [step?, Option.bind_some]
      rw [hrest, List.reverse_cons, List.append_assoc]
      rfl

end

/-- The lexemes of a document are read as that document, and no others are. -/
theorem run?_eq_some_iff {ts : List Token} {node : Node} :
    run? ⟨[], .value⟩ ts = some node ↔ ts = node.tokens := by
  constructor
  · exact fun h => Stands.value.run h
  · rintro rfl
    have hrun := run?_tokens node [] []
    rw [List.append_nil] at hrun
    rw [hrun]
    rfl

end Reading

/-- Octets are read as a document exactly when they spell it. -/
theorem read?_eq_some_iff {source : List UInt8} {node : Node} :
    read? source = some node ↔ Document source node := by
  rw [← tokens?_eq_some_iff, read?, Option.bind_eq_bind, Option.bind_eq_some_iff]
  constructor
  · rintro ⟨ts, htokens, hrun⟩
    rw [htokens, Reading.run?_eq_some_iff.1 hrun]
  · intro htokens
    exact ⟨_, htokens, Reading.run?_eq_some_iff.2 rfl⟩

end Json
end FaultRelay
