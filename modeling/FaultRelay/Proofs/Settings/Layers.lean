import FaultRelay.Settings.Reading
import Mathlib.Tactic.Common

/-!
# What stands at the end of a path when sources are laid over each other

A value that is no table takes the place of what stood at the end of its path.  What stands at the
end of any other path stays, unless the new path goes on from there or is a beginning of it.

**Results.**
* `Tree.at?_setAt`, `Tree.at?_setAt_apart`: what stands at the end of a path after a value was put
  at the end of the same path, and of another one.
* `Tree.holds_overlay`: a value that a source has at the end of a path stands there after the source
  has been laid over others, when nothing else in it reaches that place.
* `Settings.text_read`: a setting that is a text is read from what stands at the end of its path.
-/

namespace FaultRelay
namespace Settings
namespace Tree

/-- What a table within a table holds; anything else holds nothing. -/
def inner (target : List (String × Tree)) (name : String) : List (String × Tree) :=
  ((target.lookup name).map entries).getD []

/-- What stands at the end of a path. -/
def at? (target : List (String × Tree)) : List String → Option Tree
  | [] => none
  | [name] => target.lookup name
  | name :: rest => at? (inner target name) rest

/-- A value that is no table. -/
def IsLeaf (value : Tree) : Prop :=
  ∀ entries : List (String × Tree), value ≠ .table entries

/-- The path of an outermost name; a name that is no path is one by itself. -/
def pathOf (name : String) : List String :=
  ((path? name).getD [name]).map String.toLower

/-! ### One value -/

section Put

variable {target : List (String × Tree)} {value : Tree}

theorem lookup_cons_eq (entry : String × Tree) (rest : List (String × Tree)) (key : String) :
    (entry :: rest).lookup key = if key = entry.1 then some entry.2 else rest.lookup key := by
  rw [List.lookup_cons]
  by_cases hkey : key = entry.1
  · rw [if_pos hkey, beq_iff_eq.mpr hkey]
  · rw [if_neg hkey, beq_eq_false_iff_ne.mpr hkey]

theorem lookup_put (target : List (String × Tree)) (name key : String) (value : Tree) :
    (put target name value).lookup key = if key = name then some value else target.lookup key := by
  induction target with
  | nil => rw [put, lookup_cons_eq]
  | cons entry rest ih =>
      obtain ⟨n, v⟩ := entry
      by_cases hn : n = name
      · rw [put, if_pos hn, lookup_cons_eq, lookup_cons_eq, hn]
        split <;> rfl
      · rw [put, if_neg hn, lookup_cons_eq, lookup_cons_eq, ih]
        by_cases hkey : key = n
        · have hother : ¬key = name := fun h => hn (hkey.symm.trans h)
          rw [if_pos hkey, if_neg hother, if_pos hkey]
        · rw [if_neg hkey, if_neg hkey]

theorem set_leaf (hvalue : IsLeaf value) (name : String) :
    set target name value = put target name.toLower value := by
  cases value with
  | table more => exact absurd rfl (hvalue more)
  | nil => simp only [set]
  | bool b => simp only [set]
  | int n => simp only [set]
  | real x => simp only [set]
  | text s => simp only [set]
  | list items => simp only [set]

theorem inner_put_self (name : String) (entries : List (String × Tree)) :
    inner (put target name (.table entries)) name = entries := by
  simp [inner, lookup_put, Tree.entries]

theorem at?_put_of_ne {name key : String} (hkey : key ≠ name) (rest : List String) :
    at? (put target name value) (key :: rest) = at? target (key :: rest) := by
  cases rest with
  | nil => simp [at?, lookup_put, hkey]
  | cons next rest => simp [at?, inner, lookup_put, hkey]

theorem setAt_cons (target : List (String × Tree)) (name next : String) (rest : List String)
    (value : Tree) :
    setAt target (name :: next :: rest) value =
      put target name.toLower (.table (setAt (inner target name.toLower) (next :: rest) value)) := by
  simp only [setAt, inner]

theorem setNamed_eq (target : List (String × Tree)) (name : String) (value : Tree) :
    setNamed target name value = setAt target ((path? name).getD [name]) value := by
  cases hpath : path? name with
  | none => simp [setNamed, hpath, setAt]
  | some names => simp [setNamed, hpath]

/-- A value stands at the end of its path. -/
theorem at?_setAt (hvalue : IsLeaf value) {names : List String} (hnames : names ≠ []) :
    at? (setAt target names value) (names.map String.toLower) = some value := by
  induction names generalizing target with
  | nil => exact absurd rfl hnames
  | cons name rest ih =>
      cases rest with
      | nil => simp [setAt, at?, set_leaf hvalue, lookup_put]
      | cons next rest =>
          rw [setAt_cons, List.map_cons, List.map_cons, at?, inner_put_self, ← List.map_cons]
          · exact ih (List.cons_ne_nil _ _)
          · simp

/-- A value leaves what stands at the end of a path that it is not put on: a table takes its place
only where the path of the value goes on. -/
theorem at?_setAt_apart (hvalue : IsLeaf value) {names path : List String} {old : Tree}
    (hpath : ¬names.map String.toLower <+: path) (hold : at? target path = some old) :
    at? (setAt target names value) path = some old ∨
      ∃ entries : List (String × Tree), at? (setAt target names value) path = some (.table entries) := by
  induction names generalizing target path with
  | nil => exact absurd List.nil_prefix hpath
  | cons name rest ih =>
      cases path with
      | nil => simp [at?] at hold
      | cons key keys =>
          rw [List.map_cons, List.cons_prefix_cons, not_and] at hpath
          cases rest with
          | nil =>
              have hkey : key ≠ name.toLower := fun h => hpath h.symm List.nil_prefix
              rw [setAt, set_leaf hvalue, at?_put_of_ne hkey]
              exact Or.inl hold
          | cons next rest =>
              rw [setAt_cons]
              by_cases hkey : key = name.toLower
              · subst hkey
                cases keys with
                | nil => exact Or.inr ⟨_, by rw [at?, lookup_put, if_pos rfl]⟩
                | cons following keys =>
                    rw [at?, inner_put_self]
                    · rw [at?] at hold
                      · exact ih (hpath rfl) hold
                      · simp
                    · simp
              · rw [at?_put_of_ne hkey]
                exact Or.inl hold

end Put

/-! ### A source -/

section Overlay

variable {target source : List (String × Tree)} {path : List String} {value : Tree}

/-- At the end of a path stands a value, or else a table. -/
def Holds (target : List (String × Tree)) (path : List String) (value : Tree) : Prop :=
  ∃ found : Tree, at? target path = some found ∧
    (found = value ∨ ∃ entries : List (String × Tree), found = .table entries)

theorem holds_setNamed (hvalue : IsLeaf value) (hpath : path ≠ []) {name : String}
    (hname : pathOf name = path) : Holds (setNamed target name value) path value := by
  have hnames : (path? name).getD [name] ≠ [] := by
    rintro hnil
    rw [pathOf, hnil] at hname
    exact hpath hname.symm
  refine ⟨value, ?_, Or.inl rfl⟩
  rw [setNamed_eq, ← hname]
  exact at?_setAt hvalue hnames

theorem Holds.setNamed_apart (h : Holds target path value) {name : String} {other : Tree}
    (hother : IsLeaf other) (hname : ¬pathOf name <+: path) :
    Holds (setNamed target name other) path value := by
  obtain ⟨found, hfound, hkind⟩ := h
  rw [Holds, setNamed_eq]
  rcases at?_setAt_apart hother hname hfound with hsame | ⟨entries, htable⟩
  · exact ⟨found, hsame, hkind⟩
  · exact ⟨_, htable, Or.inr ⟨entries, rfl⟩⟩

/-- A value that a source has at the end of a path stands there when the source has been laid over
others, unless it is replaced by a table. -/
theorem holds_overlay (hpath : path ≠ []) (hleaf : ∀ entry ∈ source, IsLeaf entry.2)
    (honly : ∀ entry ∈ source, pathOf entry.1 <+: path → pathOf entry.1 = path ∧ entry.2 = value)
    (hsource : Holds target path value ∨ ∃ entry ∈ source, pathOf entry.1 = path) :
    Holds (overlay target source) path value := by
  induction source generalizing target with
  | nil =>
      rcases hsource with hholds | ⟨entry, hmem, -⟩
      · exact hholds
      · cases hmem
  | cons entry rest ih =>
      obtain ⟨hentry, hrest⟩ := List.forall_mem_cons.mp hleaf
      obtain ⟨hfirst, hothers⟩ := List.forall_mem_cons.mp honly
      change Holds (overlay (setNamed target entry.1 entry.2) rest) path value
      refine ih hrest hothers ?_
      by_cases hbegins : pathOf entry.1 <+: path
      · obtain ⟨hname, hvalue⟩ := hfirst hbegins
        exact Or.inl (hvalue ▸ holds_setNamed hentry hpath hname)
      · rcases hsource with hholds | ⟨other, hmem, hother⟩
        · exact Or.inl (hholds.setNamed_apart hentry hbegins)
        · rcases List.mem_cons.mp hmem with rfl | hmem
          · exact absurd (hother ▸ List.prefix_refl _) hbegins
          · exact Or.inr ⟨other, hmem, hother⟩

end Overlay

/-! ### Reading -/

section Reading

variable {α : Type} {field : String → Option Tree} {name : String} {read : Tree → Option α}
  {default x : α} {found v : Tree}

/-- A field that is written is read. -/
theorem read_of_get? (hget : get? field name read default = some x) (hfield : field name = some found) :
    read found = some x := by
  rwa [get?, hfield] at hget

/-- The fields of a table are what it holds. -/
theorem field?_of_entries (hfound : v.entries.lookup name = some found) {names : List String}
    (hfield : v.field? names = some field) : field name = some found := by
  cases v with
  | table entries =>
      cases hfield
      exact hfound
  | _ => simp [entries] at hfound

/-- What a table holds under the name of a field is read as that field. -/
theorem read_of_field? {names : List String} (hfield : v.field? names = some field)
    (hget : get? field name read default = some x)
    (hfound : v.entries.lookup name = some found) : read found = some x :=
  read_of_get? hget (field?_of_entries hfound hfield)

theorem lookup_inner {target : List (String × Tree)} {key : String}
    (h : (inner target name).lookup key = some found) :
    ∃ v : Tree, target.lookup name = some v ∧ v.entries.lookup key = some found := by
  cases hlookup : target.lookup name with
  | none => simp [inner, hlookup] at h
  | some v => exact ⟨v, rfl, by simpa [inner, hlookup] using h⟩

end Reading

end Tree

/-! ### Settings that are texts -/

/-- The settings that are texts. -/
inductive TextSetting where
  | errorQueue
  | returnQueue
  | controlQueue
  | queueFilter
  | queuesFile
  | amqpUrl
  | managementUrl
  | username
  | password
  | region
  | endpointUrl
  | queueNameStart
  deriving DecidableEq, Repr

namespace TextSetting

/-- Where a setting stands in the tables of a source. -/
def path : TextSetting → List String
  | errorQueue => ["error_queue"]
  | returnQueue => ["return_queue"]
  | controlQueue => ["control_queue"]
  | queueFilter => ["queue_filter"]
  | queuesFile => ["broker", "queues_file"]
  | amqpUrl => ["broker", "amqp", "url"]
  | managementUrl => ["broker", "amqp", "management_url"]
  | username => ["broker", "amqp", "username"]
  | password => ["broker", "amqp", "password"]
  | region => ["broker", "sqs", "region"]
  | endpointUrl => ["broker", "sqs", "endpoint_url"]
  | queueNameStart => ["broker", "sqs", "queue_name_prefix"]

/-- The name of the variable of a setting. -/
def variableName (setting : TextSetting) : String :=
  "FAULT_BRIDGE__" ++ "__".intercalate (setting.path.map String.toUpper)

/-- The text of a setting, if it has one. -/
def value (s : Settings) : TextSetting → Option String
  | errorQueue => some s.errorQueue
  | returnQueue => some s.returnQueue
  | controlQueue => some s.controlQueue
  | queueFilter => s.queueFilter
  | queuesFile => s.broker.queuesFile
  | amqpUrl => some s.broker.amqp.url
  | managementUrl => some s.broker.amqp.managementUrl
  | username => s.broker.amqp.username
  | password => s.broker.amqp.password
  | region => s.broker.sqs.region
  | endpointUrl => s.broker.sqs.endpointUrl
  | queueNameStart => s.broker.sqs.queueNameStart

example : password.variableName = "FAULT_BRIDGE__BROKER__AMQP__PASSWORD" := by decide +kernel

end TextSetting

namespace Tree

section Records

variable {v : Tree} {found : Tree}

/-- Every setting, and the settings of the broker, are read under their names. -/
theorem get?_of_settings? {entries : List (String × Tree)} {s : Settings}
    (h : settings? entries = some s) :
    let f := (List.lookup · entries)
    let d : Settings := {}
    let word := natural? (Decimal.greatest 64)
    get? f "error_queue" text? d.errorQueue = some s.errorQueue ∧
      get? f "return_queue" text? d.returnQueue = some s.returnQueue ∧
      get? f "control_queue" text? d.controlQueue = some s.controlQueue ∧
      get? f "queue_filter" optionalText? d.queueFilter = some s.queueFilter ∧
      get? f "broker" broker? d.broker = some s.broker ∧
      get? f "queue_scan_interval_secs" float? d.scanInterval = some s.scanInterval ∧
      get? f "heartbeat_interval_secs" float? d.heartbeatInterval = some s.heartbeatInterval ∧
      get? f "custom_checks_interval_secs" float? d.checksInterval = some s.checksInterval ∧
      get? f "max_retries" (natural? (Decimal.greatest 32)) d.maxRetries = some s.maxRetries ∧
      get? f "retry_base_delay_ms" word d.retryBaseDelay = some s.retryBaseDelay ∧
      get? f "retry_max_delay_ms" word d.retryMaxDelay = some s.retryMaxDelay := by
  simp only [settings?, Option.bind_eq_bind, Option.bind_eq_some_iff, Option.pure_def,
    Option.some.injEq] at h
  obtain ⟨_, herror, _, hreturn, _, hcontrol, _, hscan, _, hheartbeat, _, hchecks, _, hretries, _,
    hbase, _, hmax, _, hfilter, _, hbroker, rfl⟩ := h
  exact ⟨herror, hreturn, hcontrol, hfilter, hbroker, hscan, hheartbeat, hchecks, hretries, hbase,
    hmax⟩

theorem get?_of_broker? {b : BrokerSettings} (h : broker? v = some b) :
    ∃ f : String → Option Tree, v.field? ["type", "amqp", "sqs", "queues_file"] = some f ∧
      get? f "amqp" amqp? {} = some b.amqp ∧
      get? f "sqs" sqs? {} = some b.sqs ∧
      get? f "queues_file" optionalText? none = some b.queuesFile ∧
      get? f "type" brokerType? .channel = some b.type := by
  simp only [broker?, Option.bind_eq_bind, Option.bind_eq_some_iff, Option.pure_def,
    Option.some.injEq] at h
  obtain ⟨f, hfield, _, htype, _, hamqp, _, hsqs, _, hfile, rfl⟩ := h
  exact ⟨f, hfield, hamqp, hsqs, hfile, htype⟩

theorem get?_of_amqp? {a : AmqpSettings} (h : amqp? v = some a) :
    ∃ f : String → Option Tree,
      v.field? ["url", "management_url", "username", "password", "prefetch_count"] = some f ∧
      get? f "url" text? ({} : AmqpSettings).url = some a.url ∧
      get? f "management_url" text? ({} : AmqpSettings).managementUrl = some a.managementUrl ∧
      get? f "username" optionalText? ({} : AmqpSettings).username = some a.username ∧
      get? f "password" optionalText? ({} : AmqpSettings).password = some a.password ∧
      get? f "prefetch_count" (natural? 65535) ({} : AmqpSettings).prefetchCount =
        some a.prefetchCount := by
  simp only [amqp?, Option.bind_eq_bind, Option.bind_eq_some_iff, Option.pure_def,
    Option.some.injEq] at h
  obtain ⟨f, hfield, _, hurl, _, hmanagement, _, husername, _, hpassword, _, hcount, rfl⟩ := h
  exact ⟨f, hfield, hurl, hmanagement, husername, hpassword, hcount⟩

theorem get?_of_sqs? {q : SqsSettings} (h : sqs? v = some q) :
    ∃ f : String → Option Tree,
      v.field? ["region", "endpoint_url", "queue_name_prefix", "wait_time_secs", "max_messages"] =
        some f ∧
      get? f "region" optionalText? ({} : SqsSettings).region = some q.region ∧
      get? f "endpoint_url" optionalText? ({} : SqsSettings).endpointUrl = some q.endpointUrl ∧
      get? f "queue_name_prefix" optionalText? ({} : SqsSettings).queueNameStart =
        some q.queueNameStart ∧
      get? f "wait_time_secs" int32? ({} : SqsSettings).waitSeconds = some q.waitSeconds ∧
      get? f "max_messages" int32? ({} : SqsSettings).maxMessages = some q.maxMessages := by
  simp only [sqs?, Option.bind_eq_bind, Option.bind_eq_some_iff, Option.pure_def,
    Option.some.injEq] at h
  obtain ⟨f, hfield, _, hregion, _, hendpoint, _, hname, _, hwait, _, hmost, rfl⟩ := h
  exact ⟨f, hfield, hregion, hendpoint, hname, hwait, hmost⟩

/-- What can be read as the text of a setting that needs none. -/
theorem optionalText?_eq_some {o : Option String} (h : found.optionalText? = some o) :
    o = found.text? ∧ IsLeaf found := by
  cases found with
  | list items => simp [optionalText?, text?] at h
  | table entries => simp [optionalText?, text?] at h
  | _ =>
      simp only [optionalText?, text?, Option.map_some, Option.some.injEq] at h
      exact ⟨h.symm, fun entries heq => nomatch heq⟩

theorem text?_eq_some {x : String} (h : found.text? = some x) :
    some x = found.text? ∧ IsLeaf found := by
  refine ⟨h.symm, ?_⟩
  rintro entries rfl
  simp [text?] at h

/-- What the table of the broker holds is read with it. -/
theorem broker?_of_settings? {entries : List (String × Tree)} {s : Settings} {key : String}
    (h : settings? entries = some s) (hfound : (inner entries "broker").lookup key = some found) :
    ∃ v : Tree, broker? v = some s.broker ∧ v.entries.lookup key = some found := by
  obtain ⟨v, hlookup, hentries⟩ := lookup_inner hfound
  obtain ⟨-, -, -, -, hbroker, -⟩ := get?_of_settings? h
  exact ⟨v, read_of_get? hbroker hlookup, hentries⟩

theorem amqp?_of_settings? {entries : List (String × Tree)} {s : Settings} {key : String}
    (h : settings? entries = some s)
    (hfound : (inner (inner entries "broker") "amqp").lookup key = some found) :
    ∃ v : Tree, amqp? v = some s.broker.amqp ∧ v.entries.lookup key = some found := by
  obtain ⟨v, hlookup, hentries⟩ := lookup_inner hfound
  obtain ⟨b, hb, hamqp⟩ := broker?_of_settings? h hlookup
  obtain ⟨f, hfield, hget, -⟩ := get?_of_broker? hb
  exact ⟨v, read_of_field? hfield hget hamqp, hentries⟩

theorem sqs?_of_settings? {entries : List (String × Tree)} {s : Settings} {key : String}
    (h : settings? entries = some s)
    (hfound : (inner (inner entries "broker") "sqs").lookup key = some found) :
    ∃ v : Tree, sqs? v = some s.broker.sqs ∧ v.entries.lookup key = some found := by
  obtain ⟨v, hlookup, hentries⟩ := lookup_inner hfound
  obtain ⟨b, hb, hsqs⟩ := broker?_of_settings? h hlookup
  obtain ⟨f, hfield, -, hget, -⟩ := get?_of_broker? hb
  exact ⟨v, read_of_field? hfield hget hsqs, hentries⟩

end Records

end Tree

/-- A setting that is a text is read from what stands at the end of its path, and this is no table. -/
theorem text_read {entries : List (String × Tree)} {s : Settings} {found : Tree}
    (h : Tree.settings? entries = some s) (setting : TextSetting)
    (hfound : Tree.at? entries setting.path = some found) :
    setting.value s = found.text? ∧ Tree.IsLeaf found := by
  obtain ⟨herror, hreturn, hcontrol, hfilter, -⟩ := Tree.get?_of_settings? h
  cases setting with
  | errorQueue => exact Tree.text?_eq_some (Tree.read_of_get? herror hfound)
  | returnQueue => exact Tree.text?_eq_some (Tree.read_of_get? hreturn hfound)
  | controlQueue => exact Tree.text?_eq_some (Tree.read_of_get? hcontrol hfound)
  | queueFilter => exact Tree.optionalText?_eq_some (Tree.read_of_get? hfilter hfound)
  | queuesFile =>
      obtain ⟨v, hv, hentries⟩ := Tree.broker?_of_settings? h hfound
      obtain ⟨f, hfield, -, -, hget, -⟩ := Tree.get?_of_broker? hv
      exact Tree.optionalText?_eq_some (Tree.read_of_field? hfield hget hentries)
  | amqpUrl =>
      obtain ⟨v, hv, hentries⟩ := Tree.amqp?_of_settings? h hfound
      obtain ⟨f, hfield, hget, -⟩ := Tree.get?_of_amqp? hv
      exact Tree.text?_eq_some (Tree.read_of_field? hfield hget hentries)
  | managementUrl =>
      obtain ⟨v, hv, hentries⟩ := Tree.amqp?_of_settings? h hfound
      obtain ⟨f, hfield, -, hget, -⟩ := Tree.get?_of_amqp? hv
      exact Tree.text?_eq_some (Tree.read_of_field? hfield hget hentries)
  | username =>
      obtain ⟨v, hv, hentries⟩ := Tree.amqp?_of_settings? h hfound
      obtain ⟨f, hfield, -, -, hget, -⟩ := Tree.get?_of_amqp? hv
      exact Tree.optionalText?_eq_some (Tree.read_of_field? hfield hget hentries)
  | password =>
      obtain ⟨v, hv, hentries⟩ := Tree.amqp?_of_settings? h hfound
      obtain ⟨f, hfield, -, -, -, hget, -⟩ := Tree.get?_of_amqp? hv
      exact Tree.optionalText?_eq_some (Tree.read_of_field? hfield hget hentries)
  | region =>
      obtain ⟨v, hv, hentries⟩ := Tree.sqs?_of_settings? h hfound
      obtain ⟨f, hfield, hget, -⟩ := Tree.get?_of_sqs? hv
      exact Tree.optionalText?_eq_some (Tree.read_of_field? hfield hget hentries)
  | endpointUrl =>
      obtain ⟨v, hv, hentries⟩ := Tree.sqs?_of_settings? h hfound
      obtain ⟨f, hfield, -, hget, -⟩ := Tree.get?_of_sqs? hv
      exact Tree.optionalText?_eq_some (Tree.read_of_field? hfield hget hentries)
  | queueNameStart =>
      obtain ⟨v, hv, hentries⟩ := Tree.sqs?_of_settings? h hfound
      obtain ⟨f, hfield, -, -, hget, -⟩ := Tree.get?_of_sqs? hv
      exact Tree.optionalText?_eq_some (Tree.read_of_field? hfield hget hentries)

end Settings
end FaultRelay
