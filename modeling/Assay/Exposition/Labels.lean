import Assay.Dictionary
import Assay.Text.Blank
import Assay.Text.Cut

/-!
# Labels in exposition text

Labels stand in braces as `name="value"`, with commas between them and optionally one behind the
last. Blanks may stand around each part. In a value a backslash takes the next character as it is,
except that `\n` is a line feed.
-/

namespace Assay.Exposition

/-- What is wrong with a line of exposition text. -/
inductive LineError where
  | sampleWithoutValue
  | badMetricName (name : String)
  | missingValue (name : String)
  | badValue (value : String)
  | badTimestamp (timestamp : String)
  | trailingText (name : String)
  | unknownType (name : String)
  | typeAfterSamples (name : String)
  | secondType (name : String)
  | summaryWithoutQuantile (name : String)
  | histogramWithoutSuffix (name : String)
  | bucketWithoutBound (name : String)
  | misfit
  | labelWithoutValue
  | badLabelName (name : String)
  | unquotedLabel (name : String)
  | unterminatedLabel (name : String)
  | duplicateLabel (name : String)
  | labelSeparator
  deriving DecidableEq, Repr

/-- The wording of an error. -/
def LineError.message : LineError → String
  | .sampleWithoutValue => "sample without value"
  | .badMetricName name => "invalid metric name '" ++ name ++ "'"
  | .missingValue name => "sample '" ++ name ++ "' without value"
  | .badValue value => "invalid sample value '" ++ value ++ "'"
  | .badTimestamp timestamp => "invalid timestamp '" ++ timestamp ++ "'"
  | .trailingText name => "trailing text after sample '" ++ name ++ "'"
  | .unknownType name => "unknown metric type '" ++ name ++ "'"
  | .typeAfterSamples name => "TYPE for '" ++ name ++ "' after its samples"
  | .secondType name => "second TYPE line for '" ++ name ++ "'"
  | .summaryWithoutQuantile name => "summary '" ++ name ++ "' sample without quantile label"
  | .histogramWithoutSuffix name =>
    "histogram '" ++ name ++ "' sample without _bucket, _sum or _count suffix"
  | .bucketWithoutBound name => "histogram bucket '" ++ name ++ "' without le label"
  | .misfit => "series does not fit its family type"
  | .labelWithoutValue => "label without value"
  | .badLabelName name => "invalid label name '" ++ name ++ "'"
  | .unquotedLabel name => "label '" ++ name ++ "' value is not quoted"
  | .unterminatedLabel name => "unterminated value for label '" ++ name ++ "'"
  | .duplicateLabel name => "duplicate label '" ++ name ++ "'"
  | .labelSeparator => "expected ',' or '\x7d' after label"

/-- The character that another one stands for behind a backslash. -/
def unescaped (c : Char) : Char :=
  if c = 'n' then '\n' else c

/-- Reads a value behind its opening quote, up to the first quote that is not escaped. -/
def quotedValue? : List Char → Option (List Char × List Char)
  | [] => none
  | '"' :: rest => some ([], rest)
  | '\\' :: [] => none
  | '\\' :: c :: rest => (quotedValue? rest).map fun (v, after) => (unescaped c :: v, after)
  | c :: rest => (quotedValue? rest).map fun (v, after) => (c :: v, after)

theorem length_lt_of_quotedValue? {cs v after : List Char} (h : quotedValue? cs = some (v, after)) :
    after.length < cs.length := by
  fun_induction quotedValue? cs generalizing v after with
  | case1 => simp at h
  | case2 rest =>
    simp only [Option.some.injEq, Prod.mk.injEq] at h
    simp [← h.2]
  | case3 => simp at h
  | case4 c rest ih =>
    obtain ⟨⟨w, a⟩, hw, he⟩ := Option.map_eq_some_iff.1 h
    simp only [Prod.mk.injEq] at he
    have := ih hw
    simp only [← he.2, List.length_cons]
    omega
  | case5 c rest _ _ _ ih =>
    obtain ⟨⟨w, a⟩, hw, he⟩ := Option.map_eq_some_iff.1 h
    simp only [Prod.mk.injEq] at he
    have := ih hw
    simp only [← he.2, List.length_cons]
    omega

/-- A character of a label name. -/
def isLabelChar (c : Char) : Bool :=
  c.isAlphanum || c = '_'

/-- A label name: a non-empty word of ASCII letters, digits and underscores. -/
def isLabelName (cs : List Char) : Bool :=
  !cs.isEmpty && cs.all isLabelChar

/-- Reads one label, which must be followed by something that is left to the caller. -/
def labelPair (cs : List Char) : Except LineError ((String × String) × List Char) :=
  match Text.cut (· = '=') cs with
  | none => .error .labelWithoutValue
  | some (front, rest) =>
    let name := String.ofList (Text.trim front)
    if !isLabelName (Text.trim front) then .error (.badLabelName name)
    else
      match Text.trimStart rest with
      | '"' :: inside =>
        match quotedValue? inside with
        | none => .error (.unterminatedLabel name)
        | some (v, after) => .ok ((name, String.ofList v), after)
      | _ => .error (.unquotedLabel name)

theorem length_trimStart_le (cs : List Char) : (Text.trimStart cs).length ≤ cs.length :=
  (List.dropWhile_sublist _).length_le

theorem length_lt_of_labelPair {cs after : List Char} {pair : String × String}
    (h : labelPair cs = .ok (pair, after)) : after.length < cs.length := by
  unfold labelPair at h
  split at h
  · simp at h
  · rename_i front rest hc
    obtain ⟨c, _, rfl⟩ := Text.cut_eq_append hc
    have ht := length_trimStart_le rest
    dsimp only at h
    split at h
    · simp at h
    · split at h
      · rename_i inside hi
        split at h
        · simp at h
        · rename_i v a hq
          have := length_lt_of_quotedValue? hq
          simp only [Except.ok.injEq, Prod.mk.injEq] at h
          rw [hi] at ht
          simp only [List.length_cons, List.length_append, ← h.2] at *
          omega
      · simp at h

/-- Reads labels up to the closing brace and adds them to those read before. The second part of the
result is the text behind the brace. -/
def labelsFrom (labels : Dictionary String) (cs : List Char) :
    Except LineError (Dictionary String × List Char) :=
  match _ht : Text.trimStart cs with
  | '\x7d' :: after => .ok (labels, after)
  | body =>
    match _hp : labelPair body with
    | .error e => .error e
    | .ok ((name, v), rest) =>
      if labels.contains name then .error (.duplicateLabel name)
      else
        match _hr : Text.trimStart rest with
        | ',' :: after => labelsFrom (labels.insert name v) after
        | '\x7d' :: after => .ok (labels.insert name v, after)
        | _ => .error .labelSeparator
  termination_by cs.length
  decreasing_by
    have h₁ := length_lt_of_labelPair _hp
    have h₂ := length_trimStart_le cs
    have h₃ := length_trimStart_le rest
    rw [_hr] at h₃
    rw [_ht] at h₂
    simp only [List.length_cons] at h₃
    omega

/-- Reads labels behind the opening brace. -/
def labels (cs : List Char) : Except LineError (Dictionary String × List Char) :=
  labelsFrom ∅ cs

end Assay.Exposition
