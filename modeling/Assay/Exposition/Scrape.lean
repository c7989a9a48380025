import Assay.Exposition.Labels
import Assay.Metric.Basic
import Assay.Number.Literal

/-!
# Exposition text

Metric families as a scraped endpoint presents them: one line per value, with comment lines that
declare the kind of a family and its help text. The lines of a summary or histogram that agree in
their labels, `quantile` and `le` apart, are folded into one sample. Values are kept as written.
Families come in order of their first line; one that is declared but has no line is left out.
-/

namespace Assay.Exposition

open Assay.Metric

/-- What has been read so far. -/
structure Scrape where
  /-- The families, in order of their first line. -/
  families : List Family := []
  /-- Where the family of a name stands. -/
  positions : Dictionary Nat := ∅
  /-- The declared kinds. -/
  types : Dictionary Kind := ∅
  /-- The help texts. -/
  help : Dictionary String := ∅
  /-- Where the sample for the position of a family and a set of labels stands in the family. -/
  series : List ((Nat × Labels) × Nat) := []

/-- Which part of a sample a line gives. -/
inductive Part where
  | plain
  | quantile (q : String)
  | bucket (bound : String)
  | sum
  | count
  deriving DecidableEq, Repr

/-- A line that gives a value: whose family and which part of a sample it is, its labels without
those that the part uses up, the value and the timestamp. -/
structure Line where
  family : String
  part : Part
  labels : Labels
  value : String
  timestamp : Option String

/-- A character of a metric name, at its start or later. -/
def isNameChar (first : Bool) (c : Char) : Bool :=
  c.isAlpha || c = '_' || c = ':' || (!first && c.isDigit)

/-- A metric name. -/
def isMetricName : List Char → Bool
  | [] => false
  | c :: cs => isNameChar true c && cs.all (isNameChar false)

/-- Refuses what is no metric name. -/
def checkName (name : List Char) : Except LineError Unit :=
  if isMetricName name then .ok () else .error (.badMetricName (String.ofList name))

/-- Spellings of infinities and of what is no number that are values as they stand. -/
def namedValues : List String :=
  ["+Inf", "-Inf", "Inf", "NaN"]

/-- Whether a text is accepted as a value: one of the spellings, or a number literal. -/
def isValue (cs : List Char) : Bool :=
  namedValues.contains (String.ofList cs) ||
    match Number.literal cs with
    | .ok _ => true
    | .error _ => false

/-- A help text with its escapes resolved; a backslash at the very end is kept. -/
def unescapeHelp : List Char → List Char
  | [] => []
  | '\\' :: [] => ['\\']
  | '\\' :: c :: rest => unescaped c :: unescapeHelp rest
  | c :: rest => c :: unescapeHelp rest

namespace Scrape

/-- The declared kind of a family. -/
def declared? (s : Scrape) (name : String) : Option Kind :=
  s.types.get? name

/-- The kind of a family. -/
def kindOf (s : Scrape) (name : String) : Kind :=
  (s.declared? name).getD .untyped

/-- The part of the text up to the first blank, and the rest behind it. -/
def nextWord (cs : List Char) : List Char × List Char :=
  (Text.cut Text.isBlank cs).getD (cs, [])

/-- Declares the kind of a family, which must not have samples yet nor be declared already. -/
def declareType (s : Scrape) (name : List Char) (kindName : List Char) : Except LineError Scrape :=
  let key := String.ofList name
  match Kind.ofName (String.ofList kindName) with
  | .error n => .error (.unknownType n)
  | .ok kind =>
    if s.positions.contains key then .error (.typeAfterSamples key)
    else if s.types.contains key then .error (.secondType key)
    else .ok { s with types := s.types.insert key kind }

/-- Reads a comment. Only those that give help or declare a kind count. -/
def comment (s : Scrape) (cs : List Char) : Except LineError Scrape :=
  let (keyword, rest) := nextWord cs
  let (name, rest) := nextWord rest
  let rest := Text.trim rest
  match String.ofList keyword with
  | "HELP" => do
    checkName name
    return { s with
      help := s.help.insert (String.ofList name) (String.ofList (unescapeHelp rest)) }
  | "TYPE" => do
    checkName name
    s.declareType name rest
  | _ => .ok s

/-- The endings of series names, with the kinds of families that they belong to. -/
def suffixes : List (String × List Kind) :=
  [("_bucket", [.histogram]), ("_sum", [.summary, .histogram]), ("_count", [.summary, .histogram])]

/-- The declared family whose name a series extends by an ending, and the ending. -/
def suffixed? (s : Scrape) (name : List Char) : Option (String × String) :=
  suffixes.findSome? fun (suffix, kinds) => do
    let base ← Text.dropSuffix? suffix.toList name
    let kind ← s.declared? (String.ofList base)
    if kinds.contains kind then some (String.ofList base, suffix) else none

/-- The family of a series and the part that it gives, and the labels that remain. -/
def resolve (s : Scrape) (name : List Char) (labels : Labels) :
    Except LineError (String × Part × Labels) :=
  let key := String.ofList name
  match s.declared? key with
  | some .summary =>
    match labels.get? "quantile" with
    | some q => .ok (key, .quantile q, labels.erase "quantile")
    | none => .error (.summaryWithoutQuantile key)
  | some .histogram => .error (.histogramWithoutSuffix key)
  | _ =>
    match s.suffixed? name with
    | none => .ok (key, .plain, labels)
    | some (base, "_bucket") =>
      match labels.get? "le" with
      | some bound => .ok (base, .bucket bound, labels.erase "le")
      | none => .error (.bucketWithoutBound key)
    | some (base, "_sum") => .ok (base, .sum, labels)
    | some (base, _) => .ok (base, .count, labels)

/-- The value and the timestamp behind a series. -/
def valueAndTime (name : String) (cs : List Char) :
    Except LineError (String × Option String) :=
  match Text.words cs with
  | [] => .error (.missingValue name)
  | value :: more =>
    if !isValue value then .error (.badValue (String.ofList value))
    else
      match more with
      | [] => .ok (String.ofList value, none)
      | timestamp :: more =>
        if (Number.int64? timestamp).isNone then .error (.badTimestamp (String.ofList timestamp))
        else if more.isEmpty then .ok (String.ofList value, some (String.ofList timestamp))
        else .error (.trailingText name)

/-- Reads a line that gives a value. -/
def parseLine (s : Scrape) (cs : List Char) : Except LineError Line := do
  let isEnd (c : Char) : Bool := c = '\x7b' || Text.isBlank c
  if !cs.any isEnd then throw .sampleWithoutValue
  let name := cs.takeWhile (!isEnd ·)
  checkName name
  let (labels, rest) ←
    match cs.drop name.length with
    | '\x7b' :: body => Exposition.labels body
    | rest => .ok (∅, rest)
  let (value, timestamp) ← valueAndTime (String.ofList name) rest
  let (family, part, labels) ← s.resolve name labels
  return ⟨family, part, labels, value, timestamp⟩

/-- The position of the family of a name, which is added if need be. -/
def locate (s : Scrape) (name : String) : Scrape × Nat :=
  match s.positions.get? name with
  | some i => (s, i)
  | none =>
    ({ s with
      families := s.families ++ [{ name := name, kind := s.kindOf name }]
      positions := s.positions.insert name s.families.length }, s.families.length)

/-- A sample without values, of the shape for a folded kind. -/
def blankSample (kind : Kind) (labels : Labels) : Sample :=
  if kind = .summary then .summary { labels := labels } else .histogram { labels := labels }

/-- Changes the samples of the family at a position. -/
def modifySamples (s : Scrape) (i : Nat) (f : List Sample → List Sample) : Scrape :=
  { s with families := s.families.modify i fun g => { g with samples := f g.samples } }

/-- The samples of the family at a position. -/
def samplesAt (s : Scrape) (i : Nat) : List Sample :=
  (s.families[i]?.map (·.samples)).getD []

/-- The position of the sample for a set of labels in a family, which is added if need be. -/
def slot (s : Scrape) (i : Nat) (kind : Kind) (labels : Labels) : Scrape × Nat :=
  match s.series.lookup (i, labels) with
  | some k => (s, k)
  | none =>
    let k := (s.samplesAt i).length
    ({ s.modifySamples i (· ++ [blankSample kind labels]) with
      series := ((i, labels), k) :: s.series }, k)

/-- Puts a part into a sample. Only quantiles and buckets bring a timestamp. -/
def fill (sample : Sample) (l : Line) : Except LineError Sample :=
  match sample, l.part with
  | .summary m, .quantile q =>
    .ok (.summary { m with
      quantiles := m.quantiles.insert q l.value
      timestamp := l.timestamp <|> m.timestamp })
  | .histogram m, .bucket bound =>
    .ok (.histogram { m with
      buckets := m.buckets.insert bound l.value
      timestamp := l.timestamp <|> m.timestamp })
  | .summary m, .sum => .ok (.summary { m with sum := l.value })
  | .histogram m, .sum => .ok (.histogram { m with sum := l.value })
  | .summary m, .count => .ok (.summary { m with count := l.value })
  | .histogram m, .count => .ok (.histogram { m with count := l.value })
  | _, _ => .error .misfit

/-- Stores what a line gives. -/
def record (s : Scrape) (l : Line) : Except LineError Scrape :=
  let kind := s.kindOf l.family
  let (s, i) := s.locate l.family
  if l.part = .plain then
    .ok (s.modifySamples i (· ++ [.plain ⟨l.labels, l.timestamp, l.value⟩]))
  else
    let (s, k) := s.slot i kind l.labels
    match (s.samplesAt i)[k]? with
    | none => .error .misfit
    | some sample => do
      let filled ← fill sample l
      return s.modifySamples i (·.set k filled)

/-- Reads a line. -/
def line (s : Scrape) (cs : List Char) : Except LineError Scrape :=
  match Text.trim cs with
  | [] => .ok s
  | '#' :: rest => s.comment (Text.trimStart rest)
  | cs => do s.record (← s.parseLine cs)

/-- The families, each with its help text. -/
def finish (s : Scrape) : List Family :=
  s.families.map fun f => { f with help := (s.help.get? f.name).getD f.help }

/-- Reads lines, the first of which has the given number. The error gives the number of the line
that is wrong. -/
def readLines (s : Scrape) : (number : Nat) → List (List Char) → Except (Nat × LineError) Scrape
  | _, [] => .ok s
  | number, l :: ls =>
    match s.line l with
    | .error e => .error (number, e)
    | .ok s => s.readLines (number + 1) ls

end Scrape

/-- Reads a whole text. -/
def parse (text : String) : Except (Nat × LineError) (List Family) :=
  (Scrape.readLines {} 1 (Text.lines text.toList)).map Scrape.finish

end Assay.Exposition
