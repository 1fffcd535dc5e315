import JsxFragment.Text.CaseTable
import JsxFragment.Text.CodeRange

/-!
Letter case. A capital sigma at the end of a word has a lower-case form of its own; every other
character maps without regard to its neighbours, some to several characters.
-/

namespace JsxFragment.Text

/-- The character that a table of runs gives for `c`, or `c` itself outside all runs. -/
def CaseRun.shiftIn (runs : List CaseRun) (c : Char) : Char :=
  let n := c.toNat
  match runs.find? fun run => run.first ≤ n && n ≤ run.last && (n - run.first) % run.step == 0 with
  | some run => Char.ofNat (Int.toNat (n + run.shift))
  | none => c

/-- The lower-case form of a character, as it is where no final sigma is at stake. -/
def lowerChar (c : Char) : List Char :=
  if c.toNat < 0x80 then [c.toLower]
  else if c = 'İ' then ['i', '\u0307']
  else [CaseRun.shiftIn lowerRuns c]

/-- The upper-case form of a character. -/
def upperChar (c : Char) : List Char :=
  if c.toNat < 0x80 then [c.toUpper]
  else
    match upperExpansions.lookup c.toNat with
    | some expansion => expansion.map Char.ofNat
    | none => [CaseRun.shiftIn upperRuns c]

/-- A character that the search for a cased letter beside a sigma passes over. -/
def isCaseIgnorable (c : Char) : Bool :=
  inRanges caseIgnorableRanges c.toNat

/-- Whether a cased letter comes first, once the characters that do not count are passed over. -/
def beginsCased (text : List Char) : Bool :=
  match text.dropWhile isCaseIgnorable with
  | [] => false
  | c :: _ => inRanges casedRanges c.toNat

/-- The lower-case form of a text that follows other text, given whether a cased letter comes last
before it. A sigma after a cased letter and before none is final. -/
def lowerFrom (afterCased : Bool) : List Char → List Char
  | [] => []
  | c :: rest =>
    let nextAfterCased := if isCaseIgnorable c then afterCased else inRanges casedRanges c.toNat
    if c = 'Σ' then
      (if afterCased && !beginsCased rest then 'ς' else 'σ') :: lowerFrom nextAfterCased rest
    else lowerChar c ++ lowerFrom nextAfterCased rest

/-- The lower-case form of a text. -/
def lowerText (text : List Char) : List Char :=
  if text.all (·.toNat < 0x80) then text.map Char.toLower else lowerFrom false text

/-- The upper-case form of a text. -/
def upperText (text : List Char) : List Char :=
  if text.all (·.toNat < 0x80) then text.map Char.toUpper else text.flatMap upperChar

/-- The lower-case form of a string. -/
def lower (s : String) : String :=
  String.ofList (lowerText s.toList)

/-- The upper-case form of a string. -/
def upper (s : String) : String :=
  String.ofList (upperText s.toList)

/-- The shortcut for ASCII agrees with the general rule. -/
theorem lowerFrom_of_ascii (afterCased : Bool) {text : List Char}
    (ascii : ∀ c ∈ text, c.toNat < 0x80) :
    lowerFrom afterCased text = text.map Char.toLower := by
  induction text generalizing afterCased with
  | nil => rfl
  | cons c rest ih =>
      have hc : c.toNat < 0x80 := ascii c (by simp)
      have notSigma : c ≠ 'Σ' := by
        rintro rfl
        exact absurd hc (by decide)
      simp [lowerFrom, notSigma, lowerChar, hc, ih _ fun d hd => ascii d (by simp [hd])]

end JsxFragment.Text
