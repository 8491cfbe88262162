import FaultRelay.Proofs.Report.Diagnostics
import FaultRelay.Proofs.Time.Extent
import FaultRelay.Service.Reporter
import Mathlib.Order.Bounds.Basic

/-!
# What a heartbeat carries, and how it is cut

**Rules.**
* `Heartbeat.dropLogs`, `Heartbeat.dropQueues`: a number of cuts of either kind, at once.
* `Heartbeat.Fits`: whether the written form has at most a number of octets.

**Results.**
* `Heartbeat.exists_reduceTo_eq`: a heartbeat is cut as often as it takes, first of log entries and
  then of queues, and no more often.
* `Heartbeat.fits_reduce`: what is sent has at most the octets that it may have.
* `Heartbeat.contents`: what is in a heartbeat that is sent, and how any heartbeat is cut.
-/

namespace FaultRelay

namespace Json

theorem escapedSize_le (c : Char) : escapedSize c ≤ 6 := by
  have hutf8 := c.utf8Size_le_four
  unfold escapedSize
  split
  · decide
  · decide
  · decide
  · decide
  · decide
  · split
    · decide
    · split
      · decide
      · omega

theorem quotedSize_le (s : String) : quotedSize s ≤ 2 + 6 * s.length := by
  have hfold : ∀ (cs : List Char) (n : Nat),
      cs.foldl (fun n c => n + escapedSize c) n ≤ n + 6 * cs.length := by
    intro cs
    induction cs with
    | nil => simp
    | cons c cs ih =>
        intro n
        have hc := escapedSize_le c
        have hcs := ih (n + escapedSize c)
        rw [List.foldl_cons, List.length_cons]
        omega
  exact hfold s.toList 2

end Json

namespace Heartbeat

/-- The heartbeat after a number of cuts of its oldest log entries. -/
def dropLogs (cuts : Nat) (h : Heartbeat) : Heartbeat :=
  { h with logs := h.logs.drop (cut * cuts) }

/-- The heartbeat after a number of cuts of its last queues. -/
def dropQueues (cuts : Nat) (h : Heartbeat) : Heartbeat :=
  { h with queues := h.queues.take (h.queues.length - cut * cuts) }

/-- Whether the written form has at most a number of octets. -/
def Fits (limit : Nat) (h : Heartbeat) : Prop :=
  h.toJson.render.toUTF8.size ≤ limit

variable {limit : Nat} {h : Heartbeat}

theorem fits_iff : h.Fits limit ↔ h.size ≤ limit := by
  rw [Fits, size, Json.Value.size_eq]
  rfl

theorem dropLogs_zero (h : Heartbeat) : h.dropLogs 0 = h := rfl

theorem dropLogs_succ (cuts : Nat) (h : Heartbeat) :
    h.dropLogs (cuts + 1) = { h with logs := h.logs.drop cut }.dropLogs cuts := by
  simp only [dropLogs, List.drop_drop]
  congr 2
  rw [Nat.mul_succ]
  omega

theorem dropQueues_zero (h : Heartbeat) : h.dropQueues 0 = h := by
  simp [dropQueues]

theorem dropQueues_succ (cuts : Nat) (h : Heartbeat) :
    h.dropQueues (cuts + 1) =
      { h with queues := h.queues.take (h.queues.length - cut) }.dropQueues cuts := by
  simp only [dropQueues, List.take_take, List.length_take]
  congr 2
  rw [Nat.mul_succ]
  omega

/-! ### Cutting -/

theorem isLeast_zero_of {p : Nat → Prop} (hzero : p 0) : IsLeast {n | p n} 0 :=
  ⟨hzero, fun _ _ => Nat.zero_le _⟩

theorem isLeast_succ_of {p : Nat → Prop} {k : Nat} (hzero : ¬ p 0)
    (h : IsLeast {n | p (n + 1)} k) : IsLeast {n | p n} (k + 1) := by
  refine ⟨h.1, ?_⟩
  rintro (_ | n) hn
  · exact absurd hn hzero
  · exact Nat.succ_le_succ (h.2 hn)

/-- Log entries are cut as often as it takes. -/
theorem exists_cutLogs_eq (limit : Nat) (h : Heartbeat) :
    ∃ k : Nat, cutLogs limit h = h.dropLogs k ∧
      IsLeast {n | (h.dropLogs n).Fits limit ∨ (h.dropLogs n).logs = []} k := by
  fun_induction cutLogs limit h with
  | case1 h hcut ih =>
      obtain ⟨k, heq, hleast⟩ := ih
      refine ⟨k + 1, by rw [heq, dropLogs_succ], isLeast_succ_of ?_ ?_⟩
      · rw [dropLogs_zero, fits_iff]
        rintro (hfits | hnone)
        · omega
        · exact hcut.2 hnone
      · simpa only [dropLogs_succ] using hleast
  | case2 h hcut =>
      refine ⟨0, rfl, isLeast_zero_of ?_⟩
      rw [dropLogs_zero, fits_iff]
      by_cases hnone : h.logs = []
      · exact Or.inr hnone
      · exact Or.inl (Nat.not_lt.mp fun hlarge => hcut ⟨hlarge, hnone⟩)

/-- Queues are cut as often as it takes. -/
theorem exists_cutQueues_eq (limit : Nat) (h : Heartbeat) :
    ∃ k : Nat, cutQueues limit h = h.dropQueues k ∧
      IsLeast {n | (h.dropQueues n).Fits limit ∨ (h.dropQueues n).queues = []} k := by
  fun_induction cutQueues limit h with
  | case1 h hcut ih =>
      obtain ⟨k, heq, hleast⟩ := ih
      refine ⟨k + 1, by rw [heq, dropQueues_succ], isLeast_succ_of ?_ ?_⟩
      · rw [dropQueues_zero, fits_iff]
        rintro (hfits | hnone)
        · omega
        · exact hcut.2 hnone
      · simpa only [dropQueues_succ] using hleast
  | case2 h hcut =>
      refine ⟨0, (dropQueues_zero h).symm, isLeast_zero_of ?_⟩
      rw [dropQueues_zero, fits_iff]
      by_cases hnone : h.queues = []
      · exact Or.inr hnone
      · exact Or.inl (Nat.not_lt.mp fun hlarge => hcut ⟨hlarge, hnone⟩)

/-- What a heartbeat is cut down to. -/
theorem exists_reduceTo_eq (limit : Nat) (h : Heartbeat) :
    ∃ k l : Nat, reduceTo limit h = (h.dropLogs k).dropQueues l ∧
      IsLeast {n | (h.dropLogs n).Fits limit ∨ (h.dropLogs n).logs = []} k ∧
      IsLeast {n | ((h.dropLogs k).dropQueues n).Fits limit ∨
        ((h.dropLogs k).dropQueues n).queues = []} l := by
  obtain ⟨k, hlogs, hk⟩ := exists_cutLogs_eq limit h
  obtain ⟨l, hqueues, hl⟩ := exists_cutQueues_eq limit (h.dropLogs k)
  exact ⟨k, l, by rw [reduceTo, hlogs, hqueues], hk, hl⟩

/-- Nothing is cut of a heartbeat that fits. -/
theorem reduceTo_of_fits (hfits : h.Fits limit) : reduceTo limit h = h := by
  obtain ⟨k, l, heq, hk, hl⟩ := exists_reduceTo_eq limit h
  have hk : k = 0 := Nat.le_zero.mp (hk.2 (Or.inl hfits))
  subst hk
  have hl : l = 0 := by
    refine Nat.le_zero.mp (hl.2 (Or.inl ?_))
    rw [dropQueues_zero]
    exact hfits
  subst hl
  rw [heq, dropLogs_zero, dropQueues_zero]

/-- Either only log entries are cut and what is left fits, or none of them is left. -/
theorem reduceTo_cases (limit : Nat) (h : Heartbeat) :
    (∃ k : Nat, reduceTo limit h = h.dropLogs k ∧ (h.dropLogs k).Fits limit) ∨
      (reduceTo limit h).logs = [] ∧
        ((reduceTo limit h).Fits limit ∨ (reduceTo limit h).queues = []) := by
  obtain ⟨k, l, heq, hk, hl⟩ := exists_reduceTo_eq limit h
  rw [heq]
  rcases hk.1 with hfits | hnone
  · have hzero : l = 0 := by
      refine Nat.le_zero.mp (hl.2 (Or.inl ?_))
      rw [dropQueues_zero]
      exact hfits
    exact Or.inl ⟨k, by rw [hzero, dropQueues_zero], hfits⟩
  · exact Or.inr ⟨hnone, hl.1⟩

/-- Queues are cut only when no log entry is left. -/
theorem logs_reduceTo_eq_nil (hqueues : (reduceTo limit h).queues ≠ h.queues) :
    (reduceTo limit h).logs = [] := by
  rcases reduceTo_cases limit h with ⟨k, heq, -⟩ | ⟨hlogs, -⟩
  · rw [heq] at hqueues
    exact absurd rfl hqueues
  · exact hlogs

/-- What is left fits, or nothing is left that could be cut. -/
theorem fits_reduceTo (limit : Nat) (h : Heartbeat) :
    (reduceTo limit h).Fits limit ∨
      (reduceTo limit h).logs = [] ∧ (reduceTo limit h).queues = [] := by
  rcases reduceTo_cases limit h with ⟨k, heq, hfits⟩ | ⟨hlogs, hfits | hqueues⟩
  · rw [heq]
    exact Or.inl hfits
  · exact Or.inl hfits
  · exact Or.inr ⟨hlogs, hqueues⟩

theorem reduceTo_of_bare (hlogs : h.logs = []) (hqueues : h.queues = []) :
    reduceTo limit h = h := by
  obtain ⟨version, queues, logs, sent⟩ := h
  obtain rfl : logs = [] := hlogs
  obtain rfl : queues = [] := hqueues
  obtain ⟨k, l, heq, -, -⟩ := exists_reduceTo_eq limit ⟨version, [], [], sent⟩
  rw [heq]
  simp [dropLogs, dropQueues]

/-- What was cut is not cut further. -/
theorem reduceTo_reduceTo (limit : Nat) (h : Heartbeat) :
    reduceTo limit (reduceTo limit h) = reduceTo limit h := by
  rcases fits_reduceTo limit h with hfits | ⟨hlogs, hqueues⟩
  · exact reduceTo_of_fits hfits
  · exact reduceTo_of_bare hlogs hqueues

theorem sent_reduceTo (limit : Nat) (h : Heartbeat) : (reduceTo limit h).sent = h.sent := by
  obtain ⟨k, l, heq, -, -⟩ := exists_reduceTo_eq limit h
  rw [heq]
  rfl

theorem version_reduceTo (limit : Nat) (h : Heartbeat) :
    (reduceTo limit h).version = h.version := by
  obtain ⟨k, l, heq, -, -⟩ := exists_reduceTo_eq limit h
  rw [heq]
  rfl

theorem logs_reduceTo_suffix (limit : Nat) (h : Heartbeat) :
    (reduceTo limit h).logs <:+ h.logs := by
  obtain ⟨k, l, heq, -, -⟩ := exists_reduceTo_eq limit h
  rw [heq]
  exact List.drop_suffix _ _

theorem queues_reduceTo_prefix (limit : Nat) (h : Heartbeat) :
    (reduceTo limit h).queues <+: h.queues := by
  obtain ⟨k, l, heq, -, -⟩ := exists_reduceTo_eq limit h
  rw [heq]
  exact List.take_prefix _ _

/-! ### What is sent -/

/-- A heartbeat without log entries and queues is small. -/
theorem fits_of_bare
    (hversion : h.version = relayVersion) (hsent : h.sent.Representable) (hlogs : h.logs = [])
    (hqueues : h.queues = []) : h.Fits maxSize := by
  have hdocument := Json.quotedSize_le h.sent.toDocument
  have hlength := hsent.length_toDocument_le
  have hnames : Json.quotedSize "Version" = 9 ∧ Json.quotedSize relayVersion = 7 ∧
      Json.quotedSize "ErrorQueues" = 13 ∧ Json.quotedSize "Logs" = 6 ∧
      Json.quotedSize "SentDateTimeOffset" = 20 := by decide
  obtain ⟨hversionName, hversionText, hqueuesName, hlogsName, hsentName⟩ := hnames
  rw [fits_iff, size, toJson, hversion, hlogs, hqueues]
  simp only [List.map_nil, Json.Value.size, Json.membersSize, Json.itemsSize, hversionName,
    hversionText, hqueuesName, hlogsName, hsentName, maxSize]
  omega

/-- What is sent has at most the octets that it may have. -/
theorem fits_reduce
    (hversion : h.version = relayVersion) (hsent : h.sent.Representable) :
    h.reduce.Fits maxSize := by
  rcases fits_reduceTo maxSize h with hfits | ⟨hlogs, hqueues⟩
  · exact hfits
  · refine fits_of_bare ?_ ?_ hlogs hqueues
    · rw [reduce, version_reduceTo, hversion]
    · rw [reduce, sent_reduceTo]
      exact hsent

/-! ### Results -/

theorem map_fst_ingestion (d : Diagnostics) :
    d.ingestion.map Prod.fst = d.errorQueues.toList := by
  simp [Diagnostics.ingestion, Function.comp_def]

theorem pairwise_toList (queues : QueueSet) : queues.toList.Pairwise (· < ·) := by
  have hordered : queues.toList.Pairwise fun a b => compare a b = .lt :=
    Std.ExtTreeSet.ordered_toList
  exact hordered.imp fun hlt => compareOfLessAndEq_eq_lt.mp hlt

theorem body_heartbeatMessage (s : Sender) (id queue : String) (d : Diagnostics) :
    (Report.heartbeatMessage s id queue d).body =
      (ofDiagnostics d s.now).reduce.toJson.render.toUTF8 := by
  simp only [Report.heartbeatMessage, Sender.message]

/--
A heartbeat that is sent has at most the octets that it may have; its log entries are the last
ones that were captured, at most a hundred, and its queues are the first ones in order, each
with whether it is listened to.  Any heartbeat is cut to any size by the fewest cuts of ten of
its oldest log entries, and by cuts of ten of its last queues only after all log entries.
-/
theorem contents :
    (∀ (notes : List Diagnostics.Note) (s : Sender) (id queue : String), s.now.Representable →
      let whole := ofDiagnostics (Diagnostics.after notes) s.now
      let h := whole.reduce
      let sent := Report.heartbeatMessage s id queue (Diagnostics.after notes)
      sent.body = h.toJson.render.toUTF8 ∧ sent.body.size ≤ maxSize ∧
      whole.logs =
        (Diagnostics.captured notes).drop ((Diagnostics.captured notes).length - 100) ∧
      whole.queues.map Prod.fst = (Diagnostics.discovered notes).toList ∧
      h.logs <:+ Diagnostics.captured notes ∧ h.logs.length ≤ 100 ∧
      h.queues.map Prod.fst <+: (Diagnostics.discovered notes).toList ∧
      (Diagnostics.discovered notes).toList.Pairwise (· < ·) ∧
      (∀ (name : String) (ingesting : Bool), (name, ingesting) ∈ h.queues →
        (ingesting = true ↔ ¬ Diagnostics.IsMissing notes name)) ∧
      ∀ (before : List Diagnostics.Note) (found idle : QueueSet) (entries : List LogEntry),
        notes = before ++ Diagnostics.topology found idle ++ entries.map .entry →
        Diagnostics.discovered notes = found ∧
          ∀ name : String, Diagnostics.IsMissing notes name ↔ name ∈ idle) ∧
    ∀ (limit : Nat) (h : Heartbeat),
      (h.Fits limit → reduceTo limit h = h) ∧
      (∃ k l : Nat, reduceTo limit h = (h.dropLogs k).dropQueues l ∧
        IsLeast {n | (h.dropLogs n).Fits limit ∨ (h.dropLogs n).logs = []} k ∧
        IsLeast {n | ((h.dropLogs k).dropQueues n).Fits limit ∨
          ((h.dropLogs k).dropQueues n).queues = []} l) ∧
      ((reduceTo limit h).queues ≠ h.queues → (reduceTo limit h).logs = []) ∧
      ((reduceTo limit h).Fits limit ∨
        (reduceTo limit h).logs = [] ∧ (reduceTo limit h).queues = []) ∧
      reduceTo limit (reduceTo limit h) = reduceTo limit h := by
  constructor
  · intro notes s id queue hnow whole h sent
    have hfound : whole.queues.map Prod.fst = (Diagnostics.discovered notes).toList := by
      rw [← Diagnostics.errorQueues_after, ← map_fst_ingestion]
      rfl
    have hlogs : h.logs <:+ (Diagnostics.after notes).logs := logs_reduceTo_suffix _ _
    have hqueues : h.queues <+: (Diagnostics.after notes).ingestion := queues_reduceTo_prefix _ _
    have hbody : sent.body = h.toJson.render.toUTF8 := body_heartbeatMessage s id queue _
    have hsize : sent.body.size ≤ maxSize := by
      rw [hbody]
      exact fits_reduce rfl hnow
    refine ⟨hbody, hsize, Diagnostics.logs_after notes, hfound,
      hlogs.trans (Diagnostics.logs_after_suffix notes),
      hlogs.length_le.trans (Diagnostics.length_logs_after_le notes),
      hfound ▸ hqueues.map Prod.fst, pairwise_toList _, ?_, ?_⟩
    · intro name ingesting hmem
      have hingesting := ((Diagnostics.after notes).mem_ingestion name ingesting).mp
        (hqueues.subset hmem)
      rw [hingesting.2, QueueSet.not_contains_eq_true, Diagnostics.mem_notFound_after]
    · rintro before found idle entries rfl
      exact ⟨Diagnostics.discovered_topology before found idle entries,
        Diagnostics.isMissing_topology before found idle entries⟩
  · intro limit h
    exact ⟨reduceTo_of_fits, exists_reduceTo_eq limit h, logs_reduceTo_eq_nil,
      fits_reduceTo limit h, reduceTo_reduceTo limit h⟩

/-- A queue that is not listened to is reported so, with the warning about it. -/
theorem contents_missing_queue :
    let entry : LogEntry := ⟨"[bridge]: queue missing", ⟨1709647630, 0⟩, "Warning"⟩
    let notes := Diagnostics.topology (.ofList ["billing_error", "orders_error"])
      (.ofList ["billing_error"]) ++ [.entry entry]
    let s : Sender := ⟨"Retry.Return", "relay-1", ⟨1709647631, 0⟩⟩
    let whole := ofDiagnostics (Diagnostics.after notes) s.now
    s.now.Representable ∧ whole.Fits maxSize ∧
      (Report.heartbeatMessage s "m-1" "Bridge" (Diagnostics.after notes)).body.size ≤ maxSize ∧
      whole.reduce.logs = [entry] ∧
      whole.reduce.queues.map Prod.fst = ["billing_error", "orders_error"] ∧
      ∀ ingesting : Bool, ("billing_error", ingesting) ∈ whole.reduce.queues →
        ingesting = false := by
  intro entry notes s whole
  have hnow : s.now.Representable := ⟨by decide, by decide⟩
  have hfits : whole.Fits maxSize := fits_iff.mpr (by decide +kernel)
  have hreduced : whole.reduce = whole := (contents.2 maxSize whole).1 hfits
  obtain ⟨-, hsize, hlogs, hqueues, -, -, -, -, hingesting, hpublished⟩ :=
    contents.1 notes s "m-1" "Bridge" hnow
  obtain ⟨hfound, hidle⟩ := hpublished [] _ _ [entry] rfl
  refine ⟨hnow, hfits, hsize, ?_, ?_, fun ingesting hmem => ?_⟩
  · rw [hreduced]
    exact hlogs
  · rw [hreduced, hqueues, hfound]
    rfl
  · have hmissing : Diagnostics.IsMissing notes "billing_error" := (hidle _).mpr (by decide)
    cases ingesting with
    | false => rfl
    | true => exact absurd hmissing ((hingesting _ _ hmem).mp rfl)

end Heartbeat
end FaultRelay
