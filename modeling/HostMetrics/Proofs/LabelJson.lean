import HostMetrics.Proofs.JsonText
import HostMetrics.Proofs.LabelHistory

/-!
# Labels are read back from JSON

The text of a value says of which kind the value is: an integer is written
with digits and a text in quotes. So the value is read back as it was, every
integer of 64 bits as an integer, and every text as a text, also one that
looks like a number (`LabelValue.ofJson_json`).

An object may list its keys in any order and repeat them. It is read as the
list of its members, and these are set one after the other, so the last value
of a key counts (`LabelSet.ofJson_listed`). A label set is written as the list
of its own labels, which make it again.
-/

namespace HostMetrics

open Json Text

/-! ## Values -/

namespace LabelValue

variable {value : LabelValue} {rest : List Char}

/-- The token that a value is written with. -/
def token : LabelValue → Token
  | int n => .integer n.toInt
  | str s => .text s.toList

/-- An integer of 64 bits lies in the range that is looked for. -/
theorem fits_toInt (n : Int64) : fits n.toInt = true := by
  simp only [fits, Bool.and_eq_true, decide_eq_true_eq]
  exact ⟨n.le_toInt, n.toInt_lt⟩

/-- **The kind of a value is read from its token alone.** -/
theorem ofToken?_token (value : LabelValue) : ofToken? value.token = some value := by
  cases value with
  | int n => rw [token, ofToken?, if_pos (fits_toInt n), Int64.ofInt_toInt]
  | str s => rw [token, ofToken?, String.ofList_toList]

/-- A value is read back where it ends. -/
theorem tokens_json_append (value : LabelValue) (hrest : EndsNumber rest) :
    tokens (value.json ++ rest) = value.token :: tokens rest := by
  cases value with
  | int n => exact tokens_integer_append n.le_toInt n.toInt_lt hrest
  | str s => exact tokens_quoted_append s.toList rest

/-- **A value is read back as it was**, in its own kind. -/
theorem ofJson_json (value : LabelValue) : ofJson (String.ofList value.json) = .ok value := by
  have htokens : tokens (String.ofList value.json).toList = [value.token] := by
    have hend : EndsNumber [] := fun c h => nomatch h
    rw [String.toList_ofList, ← List.append_nil value.json, value.tokens_json_append hend,
      tokens_nil]
  rw [ofJson]
  simp only [htokens, List.head?_cons, Option.bind_some, ofToken?_token, List.tail_cons]
  rfl

end LabelValue

namespace LabelSet

/-! ## Objects -/

/-- The written form of a key and the value under it. -/
def memberJson (label : Label) : List Char := quoted label.1.toList ++ ':' :: label.2.json

/-- **The text of an object** that lists labels in any order, under each key as
often as it likes. -/
def labelsJson (labels : List Label) : List Char :=
  object (labels.map fun (key, value) => (key.toList, value.json))

theorem labelsJson_eq (labels : List Label) :
    labelsJson labels = '\x7b' :: (commaSeparated (labels.map memberJson) ++ ['\x7d']) := by
  unfold labelsJson object
  rw [List.map_map]
  rfl

/-- **Members are read back**, whatever their keys and values are. -/
theorem members_tokens (label : Label) (labels : List Label) (rest : List Char) :
    members (tokens (commaSeparated ((label :: labels).map memberJson) ++ '\x7d' :: rest))
      = .ok (label :: labels, tokens rest) := by
  have hcomma (s : List Char) : EndsNumber (',' :: s) := by
    rintro c ⟨⟩
    decide
  have hbrace : EndsNumber ('\x7d' :: rest) := by
    rintro c ⟨⟩
    decide
  induction labels generalizing label with
  | nil =>
    obtain ⟨key, value⟩ := label
    show members (tokens ((quoted key.toList ++ ':' :: value.json) ++ '\x7d' :: rest)) = _
    rw [List.append_assoc, tokens_quoted_append, List.cons_append, tokens_colon,
      value.tokens_json_append hbrace, tokens_closeBrace, members, LabelValue.ofToken?_token,
      String.ofList_toList]
  | cons next labels ih =>
    -- what stands behind the comma is read like an object of its own
    obtain ⟨key, value⟩ := label
    show members (tokens (((quoted key.toList ++ ':' :: value.json)
      ++ ',' :: commaSeparated ((next :: labels).map memberJson)) ++ '\x7d' :: rest)) = _
    rw [List.append_assoc, List.append_assoc, tokens_quoted_append, List.cons_append,
      tokens_colon, List.cons_append, value.tokens_json_append (hcomma _), tokens_comma, members,
      LabelValue.ofToken?_token]
    dsimp only
    rw [ih, String.ofList_toList]

/-- **What is read from the text of an object** are the labels that it lists. -/
theorem labelsOfJson_labelsJson (labels : List Label) :
    labelsOfJson (String.ofList (labelsJson labels)) = .ok labels := by
  have htokens : tokens (String.ofList (labelsJson labels)).toList
      = .openBrace :: tokens (commaSeparated (labels.map memberJson) ++ ['\x7d']) := by
    rw [String.toList_ofList, labelsJson_eq, tokens_openBrace]
  cases labels with
  | nil =>
    rw [labelsOfJson, htokens, List.map_nil, commaSeparated, List.nil_append, tokens_closeBrace,
      tokens_nil]
    rfl
  | cons label labels =>
    have hmembers := members_tokens label labels []
    -- an object with members does not start with its closing brace
    obtain ⟨tail, htail⟩ := exists_tokens_commaSeparated label.1.toList (':' :: label.2.json)
      (labels.map memberJson) ['\x7d']
    rw [List.map_cons, memberJson] at htokens hmembers
    rw [htail] at htokens hmembers
    rw [labelsOfJson, htokens]
    dsimp only
    rw [hmembers, tokens_nil]
    rfl

/-- An object is read as the set of the labels that it lists. -/
theorem ofJson_labelsJson (labels : List Label) :
    ofJson (String.ofList (labelsJson labels)) = .ok (ofList labels) := by
  rw [ofJson, labelsOfJson_labelsJson]
  rfl

/-- **Labels are read back from JSON.** An object that lists labels is read as
the set of these labels, in which the last value of each key counts. A label
set and a value are read back from their own texts as they were, integers as
integers and texts as texts. -/
theorem ofJson_listed :
    (∀ labels : List Label, ofJson (String.ofList (labelsJson labels)) = .ok (ofList labels))
    ∧ (∀ (labels : List Label) (key : String),
        (∀ value, (ofList labels).get? key = some value ↔ LastWritten labels key value)
        ∧ ((ofList labels).get? key = none ↔ key ∉ labels.map Prod.fst))
    ∧ (∀ s : LabelSet, ofJson (String.ofList s.json) = .ok s)
    ∧ ∀ value : LabelValue, LabelValue.ofJson (String.ofList value.json) = .ok value := by
  refine ⟨ofJson_labelsJson, fun labels key => ⟨fun value => get?_ofList_eq_some_iff,
    get?_ofList_eq_none_iff⟩, fun s => ?_, LabelValue.ofJson_json⟩
  have hlisted : s.json = labelsJson s.entries := rfl
  rw [hlisted, ofJson_labelsJson, ofList_entries]

end LabelSet

end HostMetrics
