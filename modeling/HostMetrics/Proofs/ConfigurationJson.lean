import HostMetrics.Collect.Basic
import HostMetrics.Proofs.JsonText

/-!
# Configurations as JSON

A configuration comes about in two ways: metrics are set one after the
other, or an object is read that lists their fields. This module shows that
the two agree. An object may list its keys in any order and as often as it
likes, and the fields under a key may have any names, also such as have to
be escaped. It is read as the list of its pairs, provided that each key
names a metric (`pairsOfJson_pairsJson`). Reading chooses the last fields of
each metric and leaves out repeated ones only then, while setting leaves them
out at once and replaces the fields later; the outcome is the same
(`ofPairs_eq_setAll`).

Of the pairs that set one metric the last one counts, and of equal fields in
a list the first one (`selector?_setAll_of_last`). What is not listed is not
configured, since nothing else is set before. In particular a configuration
that is written, in the order of the catalog and each metric once, is read
back as itself (`setAll_pairs`).
-/

namespace HostMetrics.Configuration

open Json

/-- The written form of the fields of a metric. -/
def fieldsJson (fields : List String) : List Char :=
  array (fields.map fun field => quoted field.toList)

/-- The written form of a key and the fields under it. -/
def memberJson (pair : String × List String) : List Char :=
  quoted pair.1.toList ++ ':' :: fieldsJson pair.2

/-- **The text of an object** that lists fields under keys of any kind, each
of them as often as it likes. -/
def pairsJson (pairs : List (String × List String)) : List Char :=
  object (pairs.map fun (key, fields) => (key.toList, fieldsJson fields))

/-- The pairs under the metrics that their keys name, if each key names one. -/
def known? : List (String × List String) → Option (List (Metric × List String))
  | [] => some []
  | (key, fields) :: pairs =>
    (Metric.ofName? key).bind fun metric => (known? pairs).map ((metric, fields) :: ·)

/-! ## Reading -/

/-- The fields behind the opening bracket are read back. -/
theorem strings_tokens (field : String) (fields : List String) (rest : List Char) :
    strings (tokens (commaSeparated ((field :: fields).map fun field => quoted field.toList)
      ++ ']' :: rest)) = .ok (field :: fields, tokens rest) := by
  induction fields generalizing field with
  | nil =>
    show strings (tokens (quoted field.toList ++ ']' :: rest)) = _
    rw [tokens_quoted_append, tokens_closeBracket, strings, String.ofList_toList]
  | cons next fields ih =>
    show strings (tokens ((quoted field.toList ++ ',' :: commaSeparated
      ((next :: fields).map fun field => quoted field.toList)) ++ ']' :: rest)) = _
    rw [List.append_assoc, List.cons_append, tokens_quoted_append, tokens_comma, strings, ih,
      String.ofList_toList]

/-- **Fields are read back**, whatever their names are. -/
theorem stringList_tokens (fields : List String) (rest : List Char) :
    stringList (tokens (fieldsJson fields ++ rest)) = .ok (fields, tokens rest) := by
  cases fields with
  | nil =>
    show stringList (tokens ('[' :: ']' :: rest)) = _
    rw [tokens_openBracket, tokens_closeBracket, stringList]
  | cons field fields =>
    have hstrings := strings_tokens field fields rest
    obtain ⟨tail, htail⟩ := exists_tokens_commaSeparated field.toList []
      (fields.map fun field => quoted field.toList) (']' :: rest)
    rw [List.append_nil] at htail
    rw [List.map_cons, htail] at hstrings
    show stringList (tokens ('[' :: ((_ ++ [']']) ++ rest))) = _
    rw [tokens_openBracket, List.append_assoc, List.map_cons]
    show stringList (.openBracket :: tokens (_ ++ ']' :: rest)) = _
    rw [htail]
    exact hstrings

section Members

variable {key : List Char} {metric : Metric} {fields : List String} {s : List Token}

theorem members_of_unknown (hkey : Metric.ofName? (String.ofList key) = none) :
    members (.text key :: s) = .error .unexpected := by
  rw [members, hkey]

/-- What follows the fields of a metric says whether there are more. -/
theorem members_of_known {after : List Token}
    (hkey : Metric.ofName? (String.ofList key) = some metric) :
    stringList s = .ok (fields, after) →
    members (.text key :: .colon :: s)
      = match after with
        | .comma :: rest =>
          (members rest).map fun (pairs, rest) => ((metric, fields) :: pairs, rest)
        | .closeBrace :: rest => .ok ([(metric, fields)], rest)
        | rest => .error (markFault rest) := by
  intro hfields
  rw [members, hkey]
  simp only
  split
  next h => cases hfields.symm.trans h
  next h =>
    cases hfields.symm.trans h
    dsimp only
    cases members _ <;> rfl
  next h =>
    cases hfields.symm.trans h
    rfl
  next hcomma hclose h =>
    cases hfields.symm.trans h
    split
    · exact (hcomma _ rfl).elim
    · exact (hclose _ rfl).elim
    · rfl

end Members

/-- **Members are read back** if their keys name metrics, and are refused if
one of them does not. -/
theorem members_tokens (pair : String × List String) (pairs : List (String × List String))
    (rest : List Char) :
    members (tokens (commaSeparated ((pair :: pairs).map memberJson) ++ '\x7d' :: rest))
      = (known? (pair :: pairs)).elim (.error .unexpected) fun metrics =>
          .ok (metrics, tokens rest) := by
  induction pairs generalizing pair with
  | nil =>
    obtain ⟨key, fields⟩ := pair
    show members (tokens ((quoted key.toList ++ ':' :: fieldsJson fields) ++ '\x7d' :: rest)) = _
    rw [List.append_assoc, tokens_quoted_append, List.cons_append, tokens_colon, known?]
    cases hkey : Metric.ofName? key with
    | none => exact members_of_unknown (by rw [String.ofList_toList, hkey])
    | some metric =>
      rw [members_of_known (by rw [String.ofList_toList, hkey]) (stringList_tokens fields _),
        tokens_closeBrace]
      rfl
  | cons next pairs ih =>
    -- what stands behind the comma is read like an object of its own
    obtain ⟨key, fields⟩ := pair
    show members (tokens (((quoted key.toList ++ ':' :: fieldsJson fields)
      ++ ',' :: commaSeparated ((next :: pairs).map memberJson)) ++ '\x7d' :: rest)) = _
    rw [List.append_assoc, List.append_assoc, tokens_quoted_append, List.cons_append,
      tokens_colon, known?]
    cases hkey : Metric.ofName? key with
    | none => exact members_of_unknown (by rw [String.ofList_toList, hkey])
    | some metric =>
      rw [members_of_known (by rw [String.ofList_toList, hkey]) (stringList_tokens fields _),
        List.cons_append, tokens_comma]
      show (members _).map _ = _
      rw [ih]
      cases known? (next :: pairs) <;> rfl

theorem pairsJson_eq (pairs : List (String × List String)) :
    pairsJson pairs = '\x7b' :: (commaSeparated (pairs.map memberJson) ++ ['\x7d']) := by
  unfold pairsJson object
  rw [List.map_map]
  rfl

/-- **What is read from the text of an object**: what it lists, if all of
its keys name metrics. -/
theorem pairsOfJson_pairsJson (pairs : List (String × List String)) :
    pairsOfJson (String.ofList (pairsJson pairs))
      = (known? pairs).elim (.error .unexpected) .ok := by
  have htokens : tokens (String.ofList (pairsJson pairs)).toList
      = .openBrace :: tokens (commaSeparated (pairs.map memberJson) ++ ['\x7d']) := by
    rw [String.toList_ofList, pairsJson_eq, tokens_openBrace]
  cases pairs with
  | nil =>
    have hclose : tokens ['\x7d'] = [.closeBrace] := by rw [tokens_closeBrace, tokens]
    rw [pairsOfJson, htokens, List.map_nil, commaSeparated, List.nil_append, hclose]
    rfl
  | cons pair pairs =>
    have hmembers := members_tokens pair pairs []
    obtain ⟨tail, htail⟩ := exists_tokens_commaSeparated pair.1.toList (':' :: fieldsJson pair.2)
      (pairs.map memberJson) ['\x7d']
    rw [List.map_cons, memberJson] at htokens hmembers
    rw [htail] at htokens hmembers
    rw [pairsOfJson, htokens]
    dsimp only
    rw [hmembers]
    cases known? (pair :: pairs) with
    | none => rfl
    | some metrics =>
      show finish metrics (tokens []) = .ok metrics
      rw [tokens_nil]
      rfl

theorem known?_names (pairs : List (Metric × List String)) :
    known? (pairs.map fun pair => (pair.1.name, pair.2)) = some pairs := by
  induction pairs with
  | nil => rfl
  | cons pair pairs ih =>
    rw [List.map_cons, known?, Metric.ofName?_name, Option.bind_some, ih]
    rfl

theorem known?_of_unknown {pairs : List (String × List String)}
    (h : ∃ pair ∈ pairs, ∀ metric : Metric, metric.name ≠ pair.1) : known? pairs = none := by
  induction pairs with
  | nil =>
    obtain ⟨pair, hpair, -⟩ := h
    cases hpair
  | cons pair pairs ih =>
    rw [known?]
    cases hkey : Metric.ofName? pair.1 with
    | none => rfl
    | some metric =>
      obtain ⟨other, hother, hunknown⟩ := h
      have hrest : known? pairs = none := by
        cases hother with
        | head => exact absurd (Metric.name_of_ofName? hkey) (hunknown metric)
        | tail _ hother => exact ih ⟨other, hother, hunknown⟩
      rw [Option.bind_some, hrest]
      rfl

/-! ## Setting one metric after the other -/

section Setting

variable {config : Configuration} {metric : Metric} {pairs : List (Metric × List String)}

theorem setAll_append (config : Configuration) (before after : List (Metric × List String)) :
    config.setAll (before ++ after) = (config.setAll before).setAll after :=
  List.foldl_append

/-- What is not set stays as it is. -/
theorem selector?_setAll_of_not_mem (h : metric ∉ pairs.map Prod.fst) :
    (config.setAll pairs).selector? metric = config.selector? metric := by
  induction pairs generalizing config with
  | nil => rfl
  | cons pair pairs ih =>
    rw [List.map_cons, List.mem_cons, not_or] at h
    show ((config.set pair.1 pair.2).setAll pairs).selector? metric = _
    rw [ih h.2, selector?_set, if_neg h.1]

/-- **The last setting of a metric counts.** -/
theorem selector?_setAll_of_last {before after : List (Metric × List String)}
    {fields : List String} (h : metric ∉ after.map Prod.fst) :
    (config.setAll (before ++ (metric, fields) :: after)).selector? metric
      = some (.ofList fields) := by
  rw [setAll_append]
  show (((config.setAll before).set metric fields).setAll after).selector? metric = _
  rw [selector?_setAll_of_not_mem h, selector?_set, if_pos rfl]

/-- **What an object lists is what setting its metrics one after the other
leaves.** -/
theorem ofPairs_eq_setAll (pairs : List (Metric × List String)) :
    ofPairs pairs = empty.setAll pairs := by
  refine ext fun metric => ?_
  induction pairs using List.reverseRecOn with
  | nil => rfl
  | append_singleton pairs pair ih =>
    obtain ⟨m, fields⟩ := pair
    rw [setAll_append]
    show _ = ((empty.setAll pairs).set m fields).selector? metric
    rw [selector?_set, ← ih]
    show ((pairs ++ [(m, fields)]).reverse.lookup metric).map _ = _
    rw [List.reverse_concat, List.lookup_cons]
    by_cases hmetric : metric = m
    · rw [if_pos hmetric, beq_iff_eq.mpr hmetric]
      rfl
    · rw [if_neg hmetric, beq_false_of_ne hmetric]
      rfl

end Setting

/-! ## Writing -/

/-- The fields of a metric as a pair with it, if it is configured. -/
def pair? (config : Configuration) (metric : Metric) : Option (Metric × List String) :=
  (config.fields? metric).map (metric, ·)

/-- The configured metrics and their fields, in the order of the catalog. -/
def pairs (config : Configuration) : List (Metric × List String) :=
  Metric.all.filterMap config.pair?

theorem json_eq (config : Configuration) :
    config.json = pairsJson (config.pairs.map fun pair => (pair.1.name, pair.2)) := by
  unfold json pairsJson pairs pair?
  rw [List.map_map, List.map_filterMap]
  refine congrArg (fun member => object (Metric.all.filterMap member)) (funext fun metric => ?_)
  rw [Option.map_map]
  rfl

theorem not_mem_map_fst_pairs {config : Configuration} {metric : Metric} {metrics : List Metric}
    (h : metric ∉ metrics ∨ config.fields? metric = none) :
    metric ∉ (metrics.filterMap config.pair?).map Prod.fst := by
  intro hmem
  obtain ⟨pair, hpair, rfl⟩ := List.mem_map.mp hmem
  obtain ⟨other, hother, hpair⟩ := List.mem_filterMap.mp hpair
  obtain ⟨fields, hfields, rfl⟩ := Option.map_eq_some_iff.mp hpair
  rcases h with hmetrics | hnone
  · exact hmetrics hother
  · cases hfields.symm.trans hnone

theorem eraseDups_of_nodup {fields : List String} (h : fields.Nodup) :
    fields.eraseDups = fields := by
  induction h with
  | nil => rfl
  | @cons field fields hfield hrest ih =>
    have hfilter : fields.filter (fun other => !other == field) = fields :=
      List.filter_eq_self.mpr fun other hother => by
        simpa using (hfield other hother).symm
    rw [List.eraseDups_cons, hfilter, ih]

theorem ofList_fields (selector : Selector) : .ofList selector.fields = selector := by
  obtain ⟨fields, hnodup⟩ := selector
  unfold Selector.ofList
  congr 1
  exact eraseDups_of_nodup hnodup

/-- **A configuration is its pairs**, set one after the other. -/
theorem setAll_pairs (config : Configuration) : empty.setAll config.pairs = config := by
  refine ext fun metric => ?_
  cases hselector : config.selector? metric with
  | none =>
    have hfields : config.fields? metric = none := congrArg (Option.map _) hselector
    exact selector?_setAll_of_not_mem (not_mem_map_fst_pairs (.inr hfields))
  | some selector =>
    have hpair : config.pair? metric = some (metric, selector.fields) := by
      unfold pair? fields?
      rw [hselector]
      rfl
    obtain ⟨before, after, hall⟩ := List.append_of_mem metric.mem_all
    -- the catalog has each metric once, so nothing sets this one again
    have hafter : metric ∉ after := by
      have hnodup := Metric.nodup_all
      rw [hall] at hnodup
      exact (List.nodup_cons.mp (List.nodup_append.mp hnodup).2.1).1
    have hsplit : config.pairs = before.filterMap config.pair?
        ++ (metric, selector.fields) :: after.filterMap config.pair? := by
      rw [pairs, hall, List.filterMap_append, List.filterMap_cons_some hpair]
    rw [hsplit, selector?_setAll_of_last (not_mem_map_fst_pairs (.inl hafter)), ofList_fields]

/-! ## The order of the metrics -/

/-- The configured metrics ascend in the order of the catalog. -/
theorem pairwise_metrics (config : Configuration) :
    config.metrics.Pairwise fun a b => a.position < b.position := by
  have hall : Metric.all.Pairwise fun a b => a.position < b.position := by decide
  exact hall.filter config.contains

/-- **Loading a configuration is setting its metrics one after the other.** -/
theorem ofJson_agrees_set :
    (∀ pairs : List (Metric × List String),
      ofJson (String.ofList (pairsJson (pairs.map fun pair => (pair.1.name, pair.2))))
        = .ok (empty.setAll pairs))
    ∧ (∀ pairs : List (String × List String),
        (∃ pair ∈ pairs, ∀ metric : Metric, metric.name ≠ pair.1) →
        ofJson (String.ofList (pairsJson pairs)) = .error .unexpected)
    ∧ (∀ (before after : List (Metric × List String)) (metric : Metric) (fields : List String),
        metric ∉ after.map Prod.fst →
        (empty.setAll (before ++ (metric, fields) :: after)).fields? metric
          = some fields.eraseDups)
    ∧ (∀ (pairs : List (Metric × List String)) (metric : Metric), metric ∉ pairs.map Prod.fst →
        Collect.fieldsOf (empty.setAll pairs) metric = .error (.error (.notConfigured metric)))
    ∧ ∀ config : Configuration,
        config.metrics.Pairwise (fun a b => a.position < b.position)
        ∧ (∀ metric fields, config.fields? metric = some fields → fields.Nodup)
        ∧ ofJson (String.ofList config.json) = .ok config := by
  have hload : ∀ pairs : List (Metric × List String),
      ofJson (String.ofList (pairsJson (pairs.map fun pair => (pair.1.name, pair.2))))
        = .ok (empty.setAll pairs) := by
    intro pairs
    rw [ofJson, pairsOfJson_pairsJson, known?_names, ← ofPairs_eq_setAll]
    rfl
  refine ⟨hload, ?_, ?_, ?_, fun config => ⟨pairwise_metrics config, ?_, ?_⟩⟩
  · intro pairs hunknown
    rw [ofJson, pairsOfJson_pairsJson, known?_of_unknown hunknown]
    rfl
  · intro before after metric fields hafter
    rw [fields?, selector?_setAll_of_last hafter]
    rfl
  · intro pairs metric hmetric
    rw [Collect.fieldsOf, fields?, selector?_setAll_of_not_mem hmetric]
    rfl
  · intro metric fields hfields
    obtain ⟨selector, -, rfl⟩ := Option.map_eq_some_iff.mp hfields
    exact selector.nodup
  · rw [json_eq, hload, setAll_pairs]

end HostMetrics.Configuration
