import AttributeRules.Text.Letter
import AttributeRules.Text.LowercaseTable

/-! The lower case of a text.

Each character is lowered by itself, except that a capital sigma takes its final form at the end of a word:
after a cased character and before none, where characters that case ignores do not count. The capital I with
a dot above becomes two characters. -/

namespace AttributeRules.Text

def CaseRun.holds (r : CaseRun) (c : Char) : Bool :=
  r.first ≤ c.toNat && c.toNat ≤ r.last && (c.toNat - r.first) % r.stride == 0

/-- The lower case of a character that has one by itself, and the character unchanged otherwise. -/
def lowerChar (c : Char) : Char :=
  match lowercaseRuns.find? (·.holds c) with
  | some r => Char.ofNat (c.toNat + r.shift).toNat
  | none => c

/-- Is the first character that case does not ignore a cased one? -/
def startsCased (s : List Char) : Bool :=
  match s.dropWhile (inRanges ignorableRanges) with
  | c :: _ => inRanges casedRanges c
  | [] => false

/-- The form of a sigma between the text before it, read backwards, and the text after it. -/
def lowerSigma (before after : List Char) : Char :=
  if startsCased before && !startsCased after then 'ς' else 'σ'

/-- The lower case of a text that follows `before`, which is read backwards. -/
def lowercaseAfter (before : List Char) : List Char → List Char
  | [] => []
  | c :: rest =>
    let lowered :=
      if c = 'Σ' then [lowerSigma before rest]
      else if c = 'İ' then ['i', '\u0307']
      else [lowerChar c]
    lowered ++ lowercaseAfter (c :: before) rest

def lowercase (s : List Char) : List Char := lowercaseAfter [] s

end AttributeRules.Text
