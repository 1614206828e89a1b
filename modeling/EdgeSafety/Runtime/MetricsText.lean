import EdgeSafety.Runtime.Metrics

/-!
# The text of the metrics

What a reader of the text format gets back of `render_prometheus`, after any calls of `set_gauge`
and `increment`. It gets the last value of each gauge and the sum of the increments of each counter
exactly where no accepted name is outside the grammar of metric names, and none is that of a gauge
and of a counter (`wellFormed_iff`).
-/

namespace EdgeSafety

variable {V : Type}

/-! ## Calls -/

/-- What `_validate_name` lets pass. -/
def ValidName (format : Format V) (name : String) : Prop :=
  ¬ name.isEmpty ∧ name.toList.all (MetricsRegistry.nameChar format)

instance (format : Format V) (name : String) : Decidable (ValidName format name) :=
  inferInstanceAs (Decidable (_ ∧ _))

/-- A call of a method that changes the registry. -/
inductive MetricCall (V : Type)
  | setGauge (name : String) (value : V)
  | increment (name : String) (value : Int)

namespace MetricCall

/-- The name that a call is about. -/
def name : MetricCall V → String
  | .setGauge name _ => name
  | .increment name _ => name

/-- The method that is called. -/
def apply (format : Format V) (registry : MetricsRegistry V) :
    MetricCall V → Except String (MetricsRegistry V)
  | .setGauge name value => registry.setGauge format name value
  | .increment name value => registry.increment format name value

/-- An increment by a negative number. -/
def Negative : MetricCall V → Prop
  | .setGauge _ _ => False
  | .increment _ value => value < 0

instance (call : MetricCall V) : Decidable call.Negative :=
  match call with
  | .setGauge _ _ => inferInstanceAs (Decidable False)
  | .increment _ value => inferInstanceAs (Decidable (value < 0))

/-- The checks that a call goes through. -/
def Accepted (format : Format V) (call : MetricCall V) : Prop :=
  ValidName format call.name ∧ ¬ call.Negative

instance (format : Format V) (call : MetricCall V) : Decidable (call.Accepted format) :=
  inferInstanceAs (Decidable (_ ∧ _))

/-- The value that a gauge is set to. -/
def gaugeValue? (name : String) : MetricCall V → Option V
  | .setGauge own value => if own = name then some value else none
  | .increment _ _ => none

/-- What a counter is incremented by. -/
def increment? (name : String) : MetricCall V → Option Int
  | .setGauge _ _ => none
  | .increment own value => if own = name then some value else none

end MetricCall

namespace MetricsRegistry

/-- The registry after a call; one that raises leaves it. -/
def attempt (format : Format V) (registry : MetricsRegistry V) (call : MetricCall V) :
    MetricsRegistry V :=
  match call.apply format registry with
  | .ok registry => registry
  | .error _ => registry

/-- The registry after calls. -/
def run (format : Format V) (calls : List (MetricCall V)) : MetricsRegistry V :=
  calls.foldl (attempt format) .init

end MetricsRegistry

/-- The last value that a gauge was set to. -/
def lastGauge (format : Format V) (calls : List (MetricCall V)) (name : String) : Option V :=
  ((calls.filter fun call => call.Accepted format).filterMap
    (MetricCall.gaugeValue? name)).getLast?

/-- The sum of the increments of a counter that was incremented. -/
def total (format : Format V) (calls : List (MetricCall V)) (name : String) : Option Int :=
  let increments := (calls.filter fun call => call.Accepted format).filterMap
    (MetricCall.increment? name)
  if increments = [] then none else some increments.sum

section Calls
variable {format : Format V} {registry : MetricsRegistry V} {call : MetricCall V}
  {calls : List (MetricCall V)} {name : String}

/-- What an accepted call changes. -/
def MetricsRegistry.written (registry : MetricsRegistry V) : MetricCall V → MetricsRegistry V
  | .setGauge name value => { registry with gauges := registry.gauges.set name value }
  | .increment name value =>
    { registry with
      counters := registry.counters.set name
        ((registry.counters.get? name).getD 0 + value.toNat) }

theorem validateName_eq (format : Format V) (name : String) :
    MetricsRegistry.validateName format name =
      if ValidName format name then .ok ()
      else .error s!"invalid Prometheus metric name: {format.repr name}" := by
  unfold MetricsRegistry.validateName
  by_cases hempty : name.isEmpty
  · rw [if_pos (Or.inl hempty), if_neg fun h : ValidName format name => h.1 hempty]
  · by_cases hall : name.toList.all (MetricsRegistry.nameChar format)
    · rw [if_neg (by simp [hempty, hall]), if_pos (show ValidName format name from ⟨hempty, hall⟩)]
    · rw [if_pos (Or.inr hall), if_neg fun h : ValidName format name => hall h.2]

theorem apply_of_accepted (h : call.Accepted format) :
    call.apply format registry = .ok (registry.written call) := by
  obtain ⟨hname, hnegative⟩ := h
  cases call with
  | setGauge name value =>
    rw [MetricCall.name] at hname
    rw [MetricCall.apply, MetricsRegistry.setGauge, validateName_eq, if_pos hname]
    rfl
  | increment name value =>
    rw [MetricCall.name] at hname
    rw [MetricCall.apply, MetricsRegistry.increment, validateName_eq, if_pos hname]
    exact if_neg hnegative

theorem apply_of_not_accepted (h : ¬ call.Accepted format) :
    ∃ text, call.apply format registry = .error text := by
  cases call with
  | setGauge name value =>
    have hname : ¬ ValidName format name := fun hname => h ⟨hname, id⟩
    refine ⟨s!"invalid Prometheus metric name: {format.repr name}", ?_⟩
    rw [MetricCall.apply, MetricsRegistry.setGauge, validateName_eq, if_neg hname]
    rfl
  | increment name value =>
    by_cases hname : ValidName format name
    · have hnegative : value < 0 := not_not.mp fun hnot => h ⟨hname, hnot⟩
      refine ⟨"counter increments must be non-negative", ?_⟩
      rw [MetricCall.apply, MetricsRegistry.increment, validateName_eq, if_pos hname]
      exact if_pos hnegative
    · refine ⟨s!"invalid Prometheus metric name: {format.repr name}", ?_⟩
      rw [MetricCall.apply, MetricsRegistry.increment, validateName_eq, if_neg hname]
      rfl

/-- A call changes what it says if it is accepted, and nothing if it is not. -/
theorem attempt_eq (format : Format V) (registry : MetricsRegistry V) (call : MetricCall V) :
    registry.attempt format call =
      if call.Accepted format then registry.written call else registry := by
  unfold MetricsRegistry.attempt
  by_cases h : call.Accepted format
  · rw [if_pos h, apply_of_accepted h]
  · obtain ⟨text, htext⟩ : ∃ text, call.apply format registry = .error text :=
      apply_of_not_accepted h
    rw [if_neg h, htext]

theorem run_append_singleton (format : Format V) (calls : List (MetricCall V))
    (call : MetricCall V) : MetricsRegistry.run format (calls ++ [call]) =
      (MetricsRegistry.run format calls).attempt format call := by
  rw [MetricsRegistry.run, List.foldl_append]
  rfl

/-- The last value after one more call. -/
theorem lastGauge_append_singleton (format : Format V) (calls : List (MetricCall V))
    (call : MetricCall V) (name : String) :
    lastGauge format (calls ++ [call]) name =
      if call.Accepted format then (call.gaugeValue? name).or (lastGauge format calls name)
      else lastGauge format calls name := by
  unfold lastGauge
  rw [List.filter_append, List.filterMap_append]
  by_cases h : call.Accepted format
  · rw [if_pos h]
    cases hvalue : call.gaugeValue? name with
    | none => simp [h, hvalue]
    | some value => simp [h, hvalue]
  · simp [h]

/-- The sum after one more call. -/
theorem total_append_singleton (format : Format V) (calls : List (MetricCall V))
    (call : MetricCall V) (name : String) :
    total format (calls ++ [call]) name =
      if call.Accepted format then
        match call.increment? name with
        | none => total format calls name
        | some value => some ((total format calls name).getD 0 + value)
      else total format calls name := by
  unfold total
  rw [List.filter_append, List.filterMap_append]
  by_cases h : call.Accepted format
  · rw [if_pos h]
    cases hvalue : call.increment? name with
    | none => simp [h, hvalue]
    | some value =>
      generalize List.filterMap (MetricCall.increment? name)
        (calls.filter fun call => call.Accepted format) = increments
      cases increments with
      | nil => simp [h, hvalue]
      | cons first rest => simp [h, hvalue, Int.add_assoc]
  · simp [h]

/-- A gauge has the last value that it was set to. -/
theorem get?_gauges_run (format : Format V) (calls : List (MetricCall V)) (name : String) :
    (MetricsRegistry.run format calls).gauges.get? name = lastGauge format calls name := by
  induction calls using List.reverseRec with
  | nil => rfl
  | append_singleton calls call ih =>
    rw [run_append_singleton, attempt_eq, lastGauge_append_singleton, ← ih]
    split
    · cases call with
      | setGauge own value =>
        rw [MetricsRegistry.written, MetricCall.gaugeValue?]
        by_cases hname : own = name
        · subst hname
          rw [if_pos rfl]
          exact Dict.get?_set_self _ _ _
        · rw [if_neg hname, Option.none_or]
          exact Dict.get?_set_of_ne _ (Ne.symm hname) _
      | increment own value => rfl
    · rfl

/-- A counter has the sum of its increments. -/
theorem get?_counters_run (format : Format V) (calls : List (MetricCall V)) (name : String) :
    ((MetricsRegistry.run format calls).counters.get? name).map Nat.cast =
      total format calls name := by
  induction calls using List.reverseRec with
  | nil => rfl
  | append_singleton calls call ih =>
    rw [run_append_singleton, attempt_eq, total_append_singleton, ← ih]
    split
    · next haccepted =>
      cases call with
      | setGauge own value => rfl
      | increment own value =>
        rw [MetricsRegistry.written, MetricCall.increment?]
        by_cases hname : own = name
        · subst hname
          have hvalue : 0 ≤ value := not_lt.mp haccepted.2
          rw [if_pos rfl, Dict.get?_set_self]
          cases (MetricsRegistry.run format calls).counters.get? own with
          | none => simp [hvalue]
          | some count => simp [hvalue]
        · rw [if_neg hname, Dict.get?_set_of_ne _ (Ne.symm hname)]
    · rfl

/-- Nothing is read of the accepted calls where nothing is read of each. -/
theorem filterMap_accepted_eq_nil_iff {α : Type} {read : MetricCall V → Option α} :
    (calls.filter fun call => call.Accepted format).filterMap read = [] ↔
      ∀ call ∈ calls, call.Accepted format → read call = none := by
  simp only [List.filterMap_eq_nil_iff, List.mem_filter, decide_eq_true_iff, and_imp]

theorem mem_gauges_run :
    name ∈ (MetricsRegistry.run format calls).gauges.keys ↔
      ∃ value, .setGauge name value ∈ calls ∧
        (MetricCall.setGauge name value).Accepted format := by
  rw [← not_iff_not, ← Dict.get?_eq_none_iff, get?_gauges_run, lastGauge,
    List.getLast?_eq_none_iff, filterMap_accepted_eq_nil_iff]
  constructor
  · rintro h ⟨value, hcall, haccepted⟩
    have hnone := h _ hcall haccepted
    rw [MetricCall.gaugeValue?, if_pos rfl] at hnone
    cases hnone
  · intro h call hcall haccepted
    cases call with
    | setGauge own value =>
      apply if_neg
      rintro rfl
      exact h ⟨value, hcall, haccepted⟩
    | increment own value => rfl

theorem mem_counters_run :
    name ∈ (MetricsRegistry.run format calls).counters.keys ↔
      ∃ value, .increment name value ∈ calls ∧
        (MetricCall.increment name value : MetricCall V).Accepted format := by
  rw [← not_iff_not, ← Dict.get?_eq_none_iff,
    ← Option.map_eq_none_iff (f := (Nat.cast : Nat → Int)), get?_counters_run, total]
  simp only [ite_eq_left_iff, reduceCtorEq, imp_false, not_not, filterMap_accepted_eq_nil_iff]
  constructor
  · rintro h ⟨value, hcall, haccepted⟩
    have hnone := h _ hcall haccepted
    rw [MetricCall.increment?, if_pos rfl] at hnone
    cases hnone
  · intro h call hcall haccepted
    cases call with
    | setGauge own value => rfl
    | increment own value =>
      apply if_neg
      rintro rfl
      exact h ⟨value, hcall, haccepted⟩

end Calls

/-! ## The reader -/

/-- The lines of a text. -/
def textLines (text : String) : List (List Char) := text.toList.splitOn '\n'

/-- A line, up to its first space and from there on. -/
def cutLine (line : List Char) : List Char × List Char :=
  (line.takeWhile (· ≠ ' '), (line.dropWhile (· ≠ ' ')).drop 1)

/-- The name and the kind in a `TYPE` line. -/
def typeLine? (line : List Char) : Option (String × String) :=
  if "# TYPE ".toList.isPrefixOf line then
    let (name, kind) := cutLine (line.drop 7)
    some (.ofList name, .ofList kind)
  else none

/-- The name and the value in a line of a sample. -/
def sampleLine? (line : List Char) : Option (String × String) :=
  if line.head? = none ∨ line.head? = some '#' then none
  else
    let (name, value) := cutLine line
    some (.ofList name, .ofList value)

/-- The `TYPE` lines of a text. -/
def types (text : String) : List (String × String) := (textLines text).filterMap typeLine?

/-- The samples of a text. -/
def samples (text : String) : List (String × String) := (textLines text).filterMap sampleLine?

/-- The number that a text of digits stands for. -/
def readCount (text : String) : Option Nat :=
  if text.toList.all Char.isDigit then some (Nat.ofDigitChars 10 text.toList 0) else none

example : types "# TYPE up gauge\nup 1.0\n" = [("up", "gauge")] ∧
    samples "# TYPE up gauge\nup 1.0\n" = [("up", "1.0")] := by decide

/-- What the text says about a metric: its kind, its name and its value. -/
structure Entry where
  kind : String
  name : String
  value : String

namespace Entry

/-- The two lines of a metric. -/
def lines (entry : Entry) : List (List Char) :=
  ["# TYPE ".toList ++ (entry.name.toList ++ ' ' :: entry.kind.toList),
    entry.name.toList ++ ' ' :: entry.value.toList]

/-- A name that a line can begin with and a space can end, and no end of a line within. -/
structure OneLine (entry : Entry) : Prop where
  name_ne : entry.name.toList ≠ []
  name_clean : ∀ c ∈ entry.name.toList, c ≠ '#' ∧ c ≠ ' ' ∧ c ≠ '\n'
  kind_clean : '\n' ∉ entry.kind.toList
  value_clean : '\n' ∉ entry.value.toList

end Entry

section Reader
variable {entry : Entry} {entries : List Entry}

theorem cutLine_append {word rest : List Char} (h : ∀ c ∈ word, c ≠ ' ') :
    cutLine (word ++ ' ' :: rest) = (word, rest) := by
  have hword : ∀ c ∈ word, (decide (c ≠ ' ')) = true := fun c hc => decide_eq_true (h c hc)
  rw [cutLine, List.takeWhile_append_of_pos hword, List.dropWhile_append_of_pos hword]
  simp

theorem Entry.OneLine.typeLines (h : entry.OneLine) :
    entry.lines.filterMap typeLine? = [(entry.name, entry.kind)] := by
  have htype : typeLine? ("# TYPE ".toList ++ (entry.name.toList ++ ' ' :: entry.kind.toList)) =
      some (entry.name, entry.kind) := by
    rw [typeLine?, if_pos (List.isPrefixOf_iff_prefix.mpr (List.prefix_append _ _))]
    rw [List.drop_left' (by decide), cutLine_append fun c hc => (h.name_clean c hc).2.1]
    simp only [String.ofList_toList]
  have hsample : typeLine? (entry.name.toList ++ ' ' :: entry.value.toList) = none := by
    apply if_neg
    obtain ⟨c, rest, hname⟩ := List.exists_cons_of_ne_nil h.name_ne
    have hc : '#' ≠ c := Ne.symm (h.name_clean c (hname ▸ List.mem_cons_self)).1
    rw [hname]
    simp [hc]
  rw [Entry.lines, List.filterMap_cons_some htype, List.filterMap_cons_none hsample,
    List.filterMap_nil]

theorem Entry.OneLine.sampleLines (h : entry.OneLine) :
    entry.lines.filterMap sampleLine? = [(entry.name, entry.value)] := by
  have htype : sampleLine? ("# TYPE ".toList ++ (entry.name.toList ++ ' ' :: entry.kind.toList)) =
      none := if_pos (Or.inr rfl)
  have hsample : sampleLine? (entry.name.toList ++ ' ' :: entry.value.toList) =
      some (entry.name, entry.value) := by
    obtain ⟨c, rest, hname⟩ := List.exists_cons_of_ne_nil h.name_ne
    have hc : c ≠ '#' := (h.name_clean c (hname ▸ List.mem_cons_self)).1
    rw [sampleLine?, if_neg (by simp [hname, hc]),
      cutLine_append fun c hc => (h.name_clean c hc).2.1]
    simp only [String.ofList_toList]
  rw [Entry.lines, List.filterMap_cons_none htype, List.filterMap_cons_some hsample,
    List.filterMap_nil]

theorem Entry.OneLine.newline_notMem (h : entry.OneLine) : ∀ line ∈ entry.lines, '\n' ∉ line := by
  have hname : '\n' ∉ entry.name.toList := fun hmem => (h.name_clean _ hmem).2.2 rfl
  intro line hline
  simp only [Entry.lines, List.mem_cons, List.not_mem_nil, or_false] at hline
  rcases hline with rfl | rfl
  · simp [hname, h.kind_clean]
  · simp [hname, h.value_clean]

/-- Lines that are ended one by one are split again. -/
theorem splitOn_ended {lines : List (List Char)} (h : ∀ line ∈ lines, '\n' ∉ line) :
    (lines.flatMap (· ++ ['\n'])).splitOn '\n' = lines ++ [[]] := by
  induction lines with
  | nil => rfl
  | cons line lines ih =>
    rw [List.forall_mem_cons] at h
    have hline : ∀ c ∈ line, (c == '\n') = false := by
      intro c hc
      rw [beq_eq_false_iff_ne]
      rintro rfl
      exact h.1 hc
    rw [List.flatMap_cons, List.append_assoc, List.singleton_append, List.splitOn_eq_splitOnP,
      List.splitOnP_append_cons_of_forall_mem hline _ (by decide), ← List.splitOn_eq_splitOnP,
      ih h.2, List.cons_append]

theorem filterMap_lines {read : List Char → Option (String × String)}
    {f : Entry → String × String}
    (h : ∀ entry ∈ entries, entry.lines.filterMap read = [f entry]) :
    (entries.flatMap Entry.lines).filterMap read = entries.map f := by
  induction entries with
  | nil => rfl
  | cons entry entries ih =>
    rw [List.forall_mem_cons] at h
    rw [List.flatMap_cons, List.filterMap_append, h.1, ih h.2, List.map_cons]
    rfl

/-- The text of entries: their lines, each with its end, and one end of a line where there are
none. -/
theorem toList_text (entries : List Entry) :
    ("\n".intercalate (entries.map fun entry => expose entry.kind entry.name entry.value) ++
        "\n").toList =
      if entries = [] then ['\n'] else (entries.flatMap Entry.lines).flatMap (· ++ ['\n']) := by
  have hexpose : ∀ entry : Entry, (expose entry.kind entry.name entry.value).toList ++ ['\n'] =
      entry.lines.flatMap (· ++ ['\n']) := by
    intro entry
    change ("# TYPE " ++ entry.name ++ " " ++ entry.kind ++ "\n" ++ entry.name ++ " " ++
      entry.value).toList ++ ['\n'] = _
    simp [Entry.lines]
  induction entries with
  | nil => rfl
  | cons entry entries ih =>
    rw [if_neg (List.cons_ne_nil _ _), List.map_cons, List.flatMap_cons, List.flatMap_append,
      ← hexpose]
    cases entries with
    | nil => simp
    | cons next rest =>
      rw [if_neg (List.cons_ne_nil _ _)] at ih
      rw [← ih, String.intercalate_cons_of_ne_nil (by simp)]
      simp

/-- What is written of entries is read back. -/
theorem read_text (h : ∀ entry ∈ entries, entry.OneLine) {text : String}
    (htext : text = "\n".intercalate
      (entries.map fun entry => expose entry.kind entry.name entry.value) ++ "\n") :
    types text = entries.map (fun entry => (entry.name, entry.kind)) ∧
      samples text = entries.map (fun entry => (entry.name, entry.value)) := by
  have hlist := toList_text entries
  rw [← htext] at hlist
  cases hentries : entries with
  | nil =>
    rw [hentries, if_pos rfl] at hlist
    rw [types, samples, textLines, hlist]
    exact ⟨rfl, rfl⟩
  | cons first rest =>
    have hclean : ∀ line ∈ entries.flatMap Entry.lines, '\n' ∉ line := by
      intro line hline
      obtain ⟨entry, hentry, hline⟩ := List.mem_flatMap.mp hline
      exact (h entry hentry).newline_notMem line hline
    rw [if_neg (by rw [hentries]; exact List.cons_ne_nil _ _)] at hlist
    have htype : [[]].filterMap typeLine? = [] := rfl
    have hsample : [[]].filterMap sampleLine? = [] := rfl
    rw [types, samples, textLines, hlist, splitOn_ended hclean, List.filterMap_append,
      List.filterMap_append, filterMap_lines fun entry hentry => (h entry hentry).typeLines,
      filterMap_lines fun entry hentry => (h entry hentry).sampleLines, htype, hsample,
      List.append_nil, List.append_nil, hentries]
    exact ⟨rfl, rfl⟩

end Reader

/-! ## What is read of a registry -/

namespace MetricsRegistry

/-- What `render_prometheus` writes. -/
def textEntries (format : Format V) (registry : MetricsRegistry V) : List Entry :=
  (sorted registry.gauges).map (fun (name, value) => ⟨"gauge", name, format.float value⟩) ++
    (sorted registry.counters).map fun (name, value) => ⟨"counter", name, toString value⟩

/-- The names were let pass. -/
def Valid (format : Format V) (registry : MetricsRegistry V) : Prop :=
  ∀ name, name ∈ registry.gauges.keys ∨ name ∈ registry.counters.keys → ValidName format name

end MetricsRegistry

/-- The texts of floats are in one line and are read back. -/
structure FloatText (format : Format V) (readFloat : String → Option V) : Prop where
  newline_free : ∀ value, '\n' ∉ (format.float value).toList
  round_trip : ∀ value, readFloat (format.float value) = some value

section Registry
variable {format : Format V} {readFloat : String → Option V} {registry : MetricsRegistry V}
  {name : String}

theorem mem_sorted {α : Type} {metrics : Dict String α} {value : α} :
    (name, value) ∈ MetricsRegistry.sorted metrics ↔ metrics.get? name = some value := by
  rw [MetricsRegistry.sorted, List.mem_mergeSort, Dict.get?_eq_some_iff]

theorem sorted_keys {α : Type} (metrics : Dict String α) :
    ((MetricsRegistry.sorted metrics).map Prod.fst).Perm metrics.keys :=
  (List.mergeSort_perm _ _).map _

theorem isDigit_of_mem_count {n : Nat} : ∀ c ∈ (toString n).toList, c.isDigit = true := by
  intro c hc
  rw [Nat.toString_eq_repr, Nat.toList_repr] at hc
  exact Nat.isDigit_of_mem_toDigits (by decide) (by decide) hc

theorem newline_notMem_count (n : Nat) : '\n' ∉ (toString n).toList := by
  intro hmem
  have hdigit := isDigit_of_mem_count _ hmem
  revert hdigit
  decide

theorem readCount_toString (n : Nat) : readCount (toString n) = some n := by
  rw [readCount, if_pos (List.all_eq_true.mpr isDigit_of_mem_count), Nat.toString_eq_repr,
    Nat.toList_repr, Nat.ofDigitChars_ten_toDigits]

/-- A name that was let pass begins a line and ends at the first space. -/
theorem ValidName.clean (h : ValidName format name) :
    name.toList ≠ [] ∧ ∀ c ∈ name.toList, c ≠ '#' ∧ c ≠ ' ' ∧ c ≠ '\n' := by
  constructor
  · intro hnil
    exact h.1 (String.isEmpty_iff.mpr (String.toList_eq_nil_iff.mp hnil))
  · intro c hc
    have hchar : MetricsRegistry.nameChar format c = true := List.all_eq_true.mp h.2 c hc
    have hne : ∀ other : Char, other.toNat < 128 → asciiNameChar other = false → c ≠ other := by
      rintro other hascii hother rfl
      rw [nameChar_of_ascii format hascii, hother] at hchar
      cases hchar
    exact ⟨hne '#' (by decide) (by decide), hne ' ' (by decide) (by decide),
      hne '\n' (by decide) (by decide)⟩

theorem oneLine_textEntries (hfloat : FloatText format readFloat) (hvalid : registry.Valid format) :
    ∀ entry ∈ registry.textEntries format, entry.OneLine := by
  intro entry hentry
  rcases List.mem_append.mp hentry with hgauge | hcounter
  · obtain ⟨⟨name, value⟩, hmem, rfl⟩ := List.mem_map.mp hgauge
    have hname := hvalid name (Or.inl (Dict.mem_keys_of_get? (mem_sorted.mp hmem)))
    have hkind : '\n' ∉ "gauge".toList := by decide
    exact ⟨hname.clean.1, hname.clean.2, hkind, hfloat.newline_free value⟩
  · obtain ⟨⟨name, value⟩, hmem, rfl⟩ := List.mem_map.mp hcounter
    have hname := hvalid name (Or.inr (Dict.mem_keys_of_get? (mem_sorted.mp hmem)))
    have hkind : '\n' ∉ "counter".toList := by decide
    exact ⟨hname.clean.1, hname.clean.2, hkind, newline_notMem_count value⟩

/-- What is written of a registry is read back. -/
theorem read_renderPrometheus (hfloat : FloatText format readFloat)
    (hvalid : registry.Valid format) :
    types (registry.renderPrometheus format) =
        (registry.textEntries format).map (fun entry => (entry.name, entry.kind)) ∧
      samples (registry.renderPrometheus format) =
        (registry.textEntries format).map (fun entry => (entry.name, entry.value)) := by
  apply read_text (oneLine_textEntries hfloat hvalid)
  rw [MetricsRegistry.renderPrometheus, MetricsRegistry.textEntries, List.map_append, List.map_map,
    List.map_map]
  rfl

theorem mem_types_gauge (hfloat : FloatText format readFloat) (hvalid : registry.Valid format) :
    (name, "gauge") ∈ types (registry.renderPrometheus format) ↔ name ∈ registry.gauges.keys := by
  rw [(read_renderPrometheus hfloat hvalid).1, MetricsRegistry.textEntries,
    ← (sorted_keys _).mem_iff]
  simp

theorem mem_types_counter (hfloat : FloatText format readFloat) (hvalid : registry.Valid format) :
    (name, "counter") ∈ types (registry.renderPrometheus format) ↔
      name ∈ registry.counters.keys := by
  rw [(read_renderPrometheus hfloat hvalid).1, MetricsRegistry.textEntries,
    ← (sorted_keys _).mem_iff]
  simp

theorem mem_samples (hfloat : FloatText format readFloat) (hvalid : registry.Valid format)
    {text : String} :
    (name, text) ∈ samples (registry.renderPrometheus format) ↔
      (∃ value, registry.gauges.get? name = some value ∧ text = format.float value) ∨
        ∃ count, registry.counters.get? name = some count ∧ text = toString count := by
  rw [(read_renderPrometheus hfloat hvalid).2, MetricsRegistry.textEntries]
  simp only [← mem_sorted]
  simp [eq_comm]

/-- The names in the text, one for each sample: those of the gauges, then those of the counters. -/
theorem map_fst_read (hfloat : FloatText format readFloat) (hvalid : registry.Valid format) :
    (types (registry.renderPrometheus format)).map Prod.fst =
        (samples (registry.renderPrometheus format)).map Prod.fst ∧
      ((samples (registry.renderPrometheus format)).map Prod.fst).Perm
        (registry.gauges.keys ++ registry.counters.keys) := by
  obtain ⟨htypes, hsamples⟩ := read_renderPrometheus hfloat hvalid
  rw [htypes, hsamples, List.map_map, List.map_map]
  refine ⟨rfl, ?_⟩
  rw [MetricsRegistry.textEntries, List.map_append, List.map_map, List.map_map]
  exact (sorted_keys registry.gauges).append (sorted_keys registry.counters)

end Registry

/-! ## Well-formed text -/

/-- A character that a metric name may begin with. -/
def nameStart (character : Char) : Bool :=
  character.isAlpha || character = '_' || character = ':'

/-- The grammar of metric names. -/
def prometheusName (name : String) : Bool :=
  match name.toList with
  | [] => false
  | first :: rest => nameStart first && rest.all fun c => nameStart c || c.isDigit

/-- The names of the metrics in a text. -/
def metricNames (text : String) : List String := (types text ++ samples text).map Prod.fst

/-- What calls promise, with the text that `render_prometheus` makes after them. -/
structure WellFormed (format : Format V) (readFloat : String → Option V)
    (calls : List (MetricCall V)) (text : String) : Prop where
  /-- A name outside the grammar, or a negative increment, raises and changes nothing. -/
  rejects : ∀ before call after, calls = before ++ call :: after →
    prometheusName call.name = false ∨ call.Negative →
    let registry := MetricsRegistry.run format before
    (∃ error, call.apply format registry = .error error) ∧ registry.attempt format call = registry
  names : ∀ name ∈ metricNames text, prometheusName name
  typed : ∀ name ∈ metricNames text, ((types text).map Prod.fst).count name = 1
  /-- The samples are the last value of each gauge and the sum of the increments of each counter,
  once each. -/
  sampled : ((samples text).map Prod.fst).Nodup
  gauges : ∀ name value, lastGauge format calls name = some value ↔
    (name, "gauge") ∈ types text ∧
      ∃ written, (name, written) ∈ samples text ∧ readFloat written = some value
  counters : ∀ name sum, total format calls name = some sum ↔
    (name, "counter") ∈ types text ∧
      ∃ written, (name, written) ∈ samples text ∧ (readCount written).map Nat.cast = some sum

/-- Every accepted name is in the grammar, and is not that of a gauge and of a counter. -/
structure NamesApart (format : Format V) (calls : List (MetricCall V)) : Prop where
  grammar : ∀ call ∈ calls, call.Accepted format → prometheusName call.name
  kinds : ∀ name value increment, .setGauge name value ∈ calls → .increment name increment ∈ calls →
    (MetricCall.setGauge name value).Accepted format →
      ¬ (MetricCall.increment name increment : MetricCall V).Accepted format

section WellFormed
variable {format : Format V} {readFloat : String → Option V} {calls : List (MetricCall V)}

theorem run_valid (format : Format V) (calls : List (MetricCall V)) :
    (MetricsRegistry.run format calls).Valid format := by
  rintro name (hgauge | hcounter)
  · obtain ⟨value, -, haccepted⟩ := mem_gauges_run.mp hgauge
    exact haccepted.1
  · obtain ⟨value, -, haccepted⟩ := mem_counters_run.mp hcounter
    exact haccepted.1

theorem mem_metricNames (hfloat : FloatText format readFloat) {name : String} :
    name ∈ metricNames ((MetricsRegistry.run format calls).renderPrometheus format) ↔
      name ∈ (MetricsRegistry.run format calls).gauges.keys ∨
        name ∈ (MetricsRegistry.run format calls).counters.keys := by
  obtain ⟨hsame, hperm⟩ := map_fst_read hfloat (run_valid format calls)
  rw [metricNames, List.map_append, hsame, List.mem_append, or_self, hperm.mem_iff,
    List.mem_append]

theorem NamesApart.disjoint (h : NamesApart format calls) {name : String}
    (hgauge : name ∈ (MetricsRegistry.run format calls).gauges.keys) :
    name ∉ (MetricsRegistry.run format calls).counters.keys := by
  intro hcounter
  obtain ⟨value, hset, haccepted⟩ := mem_gauges_run.mp hgauge
  obtain ⟨increment, hincrement, haccepted'⟩ := mem_counters_run.mp hcounter
  exact h.kinds name value increment hset hincrement haccepted haccepted'

theorem WellFormed.namesApart (hfloat : FloatText format readFloat)
    (h : WellFormed format readFloat calls
      ((MetricsRegistry.run format calls).renderPrometheus format)) : NamesApart format calls := by
  obtain ⟨hsame, hperm⟩ := map_fst_read hfloat (run_valid format calls)
  constructor
  · intro call hcall haccepted
    by_contra hname
    obtain ⟨before, after, hsplit⟩ := List.append_of_mem hcall
    obtain ⟨⟨error, herror⟩, -⟩ :=
      h.rejects before call after hsplit (Or.inl (Bool.not_eq_true _ ▸ hname))
    cases herror.symm.trans (apply_of_accepted haccepted)
  · intro name value increment hset hincrement haccepted haccepted'
    have hgauge := mem_gauges_run.mpr ⟨value, hset, haccepted⟩
    have hcounter := mem_counters_run.mpr ⟨increment, hincrement, haccepted'⟩
    -- the name is typed once as a gauge and once as a counter
    have hcount := h.typed name ((mem_metricNames hfloat).mpr (Or.inl hgauge))
    rw [hsame, hperm.count_eq, List.count_append] at hcount
    have hone := List.one_le_count_iff.mpr hgauge
    have htwo := List.one_le_count_iff.mpr hcounter
    omega

theorem NamesApart.not_accepted (h : NamesApart format calls) {call : MetricCall V}
    (hcall : call ∈ calls) (hbad : prometheusName call.name = false ∨ call.Negative) :
    ¬ call.Accepted format := by
  intro haccepted
  rcases hbad with hname | hnegative
  · rw [h.grammar call hcall haccepted] at hname
    cases hname
  · exact haccepted.2 hnegative

theorem NamesApart.prometheusName_of_mem (h : NamesApart format calls) {name : String}
    (hname : name ∈ (MetricsRegistry.run format calls).gauges.keys ∨
      name ∈ (MetricsRegistry.run format calls).counters.keys) : prometheusName name := by
  rcases hname with hgauge | hcounter
  · obtain ⟨value, hset, haccepted⟩ := mem_gauges_run.mp hgauge
    exact h.grammar _ hset haccepted
  · obtain ⟨increment, hincrement, haccepted⟩ := mem_counters_run.mp hcounter
    exact h.grammar _ hincrement haccepted

/-- Each sample has a name of its own. -/
theorem NamesApart.nodup_samples (h : NamesApart format calls)
    (hfloat : FloatText format readFloat) :
    ((samples ((MetricsRegistry.run format calls).renderPrometheus format)).map
      Prod.fst).Nodup := by
  rw [(map_fst_read hfloat (run_valid format calls)).2.nodup_iff]
  exact (Dict.keys_nodup _).append (Dict.keys_nodup _) fun name hgauge => h.disjoint hgauge

/-- A value is read of a gauge if it was the last. -/
theorem NamesApart.lastGauge_iff (h : NamesApart format calls)
    (hfloat : FloatText format readFloat) (name : String) (value : V) :
    lastGauge format calls name = some value ↔
      (name, "gauge") ∈ types ((MetricsRegistry.run format calls).renderPrometheus format) ∧
        ∃ written,
          (name, written) ∈ samples ((MetricsRegistry.run format calls).renderPrometheus format) ∧
            readFloat written = some value := by
  have hvalid := run_valid format calls
  rw [← get?_gauges_run, mem_types_gauge hfloat hvalid]
  constructor
  · intro hvalue
    exact ⟨Dict.mem_keys_of_get? hvalue, _,
      (mem_samples hfloat hvalid).mpr (Or.inl ⟨value, hvalue, rfl⟩), hfloat.round_trip value⟩
  · rintro ⟨hgauge, written, hsample, hread⟩
    rcases (mem_samples hfloat hvalid).mp hsample with ⟨other, hother, rfl⟩ | ⟨count, hcount, -⟩
    · rw [hother, ← hread, hfloat.round_trip]
    · exact absurd (Dict.mem_keys_of_get? hcount) (h.disjoint hgauge)

/-- A number is read of a counter if it is the sum of its increments. -/
theorem NamesApart.total_iff (h : NamesApart format calls)
    (hfloat : FloatText format readFloat) (name : String) (sum : Int) :
    total format calls name = some sum ↔
      (name, "counter") ∈ types ((MetricsRegistry.run format calls).renderPrometheus format) ∧
        ∃ written,
          (name, written) ∈ samples ((MetricsRegistry.run format calls).renderPrometheus format) ∧
            (readCount written).map Nat.cast = some sum := by
  have hvalid := run_valid format calls
  rw [← get?_counters_run, mem_types_counter hfloat hvalid, Option.map_eq_some_iff]
  constructor
  · rintro ⟨count, hcount, rfl⟩
    exact ⟨Dict.mem_keys_of_get? hcount, _,
      (mem_samples hfloat hvalid).mpr (Or.inr ⟨count, hcount, rfl⟩),
      by rw [readCount_toString, Option.map_some]⟩
  · rintro ⟨hcounter, written, hsample, hread⟩
    rcases (mem_samples hfloat hvalid).mp hsample with ⟨other, hother, -⟩ | ⟨count, hcount, rfl⟩
    · exact absurd hcounter (h.disjoint (Dict.mem_keys_of_get? hother))
    · refine ⟨count, hcount, ?_⟩
      rw [readCount_toString, Option.map_some] at hread
      exact Option.some.inj hread

/-- What a reader gets back is what the calls wrote exactly where the accepted names are in the
grammar and no two metrics share one. -/
theorem wellFormed_iff (hfloat : FloatText format readFloat) (calls : List (MetricCall V)) :
    WellFormed format readFloat calls
        ((MetricsRegistry.run format calls).renderPrometheus format) ↔
      NamesApart format calls := by
  refine ⟨WellFormed.namesApart hfloat, fun h => ?_⟩
  obtain ⟨hsame, hperm⟩ := map_fst_read hfloat (run_valid format calls)
  constructor
  case rejects =>
    intro before call after hsplit hbad
    have hcall : call ∈ calls := hsplit ▸ List.mem_append_right _ List.mem_cons_self
    have hnot := h.not_accepted hcall hbad
    exact ⟨apply_of_not_accepted hnot, by rw [attempt_eq, if_neg hnot]⟩
  case names => exact fun name hname => h.prometheusName_of_mem ((mem_metricNames hfloat).mp hname)
  case typed =>
    intro name hname
    rw [hsame]
    exact List.count_eq_one_of_mem (h.nodup_samples hfloat)
      (hperm.mem_iff.mpr (List.mem_append.mpr ((mem_metricNames hfloat).mp hname)))
  case sampled => exact h.nodup_samples hfloat
  case gauges => exact h.lastGauge_iff hfloat
  case counters => exact h.total_iff hfloat

/-- A way to write the floats zero and one. -/
def Format.binary : Format Bool where
  float value := if value then "1.0" else "0.0"
  repr text := s!"'{text}'"
  isalnum := Format.whole.isalnum
  isalnum_ascii := Format.whole.isalnum_ascii

/-- How the two are read. -/
def readBinary (text : String) : Option Bool :=
  if text = "1.0" then some true else if text = "0.0" then some false else none

theorem binary_floatText : FloatText .binary readBinary := by
  constructor
  · decide
  · decide

theorem wellFormed_restarts :
    WellFormed .binary readBinary [.setGauge "edge_up" true, .increment "edge_restarts" 2]
      ((MetricsRegistry.run .binary
        [.setGauge "edge_up" true, .increment "edge_restarts" 2]).renderPrometheus .binary) := by
  refine (wellFormed_iff binary_floatText _).mpr ⟨by decide +kernel, ?_⟩
  intro name value increment hset hincrement
  simp at hset hincrement
  rw [hset.1] at hincrement
  exact absurd hincrement.1 (by decide)

/-- A name that begins with a digit is accepted, and so is one name for a gauge and a counter. -/
theorem not_wellFormed :
    ¬ WellFormed .binary readBinary [.setGauge "1" true]
        ((MetricsRegistry.run .binary [.setGauge "1" true]).renderPrometheus .binary) ∧
      ¬ WellFormed .binary readBinary [.setGauge "up" true, .increment "up" 1]
        ((MetricsRegistry.run .binary
          [.setGauge "up" true, .increment "up" 1]).renderPrometheus .binary) := by
  constructor
  · intro h
    obtain ⟨⟨error, herror⟩, -⟩ := h.rejects [] _ [] rfl (Or.inl (by decide +kernel))
    cases herror.symm.trans (apply_of_accepted (by decide +kernel))
  · intro h
    have hcount := h.typed "up" (by decide +kernel)
    revert hcount
    decide +kernel

end WellFormed

end EdgeSafety
