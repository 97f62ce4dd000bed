/-!
# Stems of English words

The stem of a word in small letters, by the Snowball rules for English. A `y` at the start of a
word or after a vowel counts as a consonant and is marked by a capital while the rules run. Two
regions bound what may be taken off: the first starts after the first consonant that follows a
vowel, the second is found in the same way from there. Each step looks at the longest of its
endings that the word has; if that one does not qualify, the step does nothing.

Every character other than the six vowels counts as a consonant.
-/

namespace PageSearch.Stem

def isVowel (c : Char) : Bool :=
  c == 'a' || c == 'e' || c == 'i' || c == 'o' || c == 'u' || c == 'y'

/-- Marks each `y` that is a consonant, given whether a vowel precedes. -/
def markFrom (afterVowel : Bool) : List Char → List Char
  | [] => []
  | c :: rest =>
    if c == 'y' && afterVowel then 'Y' :: markFrom false rest
    else c :: markFrom (isVowel c) rest

/-- Marks each `y` that is a consonant. -/
def mark : List Char → List Char
  | 'y' :: rest => 'Y' :: markFrom false rest
  | word => markFrom false word

/-- Puts small letters back in place of the marks. -/
def unmark (word : List Char) : List Char :=
  word.map fun c => if c == 'Y' then 'y' else c

/-- The rest of a word after the first consonant that follows a vowel. -/
def afterSyllable (word : List Char) : List Char :=
  ((word.dropWhile (!isVowel ·)).dropWhile isVowel).drop 1

/-- The lengths of what comes before the two regions of a word. -/
structure Regions where
  first : Nat
  second : Nat

/-- Beginnings after which the first region starts at once. -/
def fixedBeginnings : List (List Char) :=
  ["gener".toList, "commun".toList, "arsen".toList]

def Regions.of (word : List Char) : Regions :=
  let tail :=
    match fixedBeginnings.find? (·.isPrefixOf word) with
    | some beginning => word.drop beginning.length
    | none => afterSyllable word
  ⟨word.length - tail.length, word.length - (afterSyllable tail).length⟩

/-- What comes before an ending of the word. -/
def dropEnding? (word ending : List Char) : Option (List Char) :=
  if ending.isSuffixOf word then some (word.take (word.length - ending.length)) else none

/-- What comes before the first of the endings that the word has, and that ending. -/
def findEnding? (word : List Char) : List String → Option (List Char × String)
  | [] => none
  | ending :: others =>
    match dropEnding? word ending.toList with
    | some stem => some (stem, ending)
    | none => findEnding? word others

def endsWith (word : List Char) (ending : String) : Bool :=
  ending.toList.isSuffixOf word

/-- A short syllable ends the word: a consonant other than `w`, `x` and `Y` after a vowel after a
consonant, or a vowel and a consonant that make up the whole word. -/
def endsShort (word : List Char) : Bool :=
  match word.reverse with
  | [c, v] => !isVowel c && isVowel v
  | c :: v :: b :: _ =>
    !isVowel c && c != 'w' && c != 'x' && c != 'Y' && isVowel v && !isVowel b
  | _ => false

/-- Plural endings. -/
def plural (word : List Char) : List Char :=
  match findEnding? word ["sses", "ied", "ies", "us", "ss", "s"] with
  | some (stem, "sses") => stem ++ ['s', 's']
  | some (stem, "ied") | some (stem, "ies") =>
    if 2 ≤ stem.length then stem ++ ['i'] else stem ++ ['i', 'e']
  | some (stem, "s") => if stem.dropLast.any isVowel then stem else word
  | _ => word

/-- Double consonants of which one goes when `ed` or `ing` has gone. -/
def doubles : List String :=
  ["bb", "dd", "ff", "gg", "mm", "nn", "pp", "rr", "tt"]

/-- What follows the loss of `ed` or `ing`: an `e` comes back, or a double consonant gets single. -/
def mend (regions : Regions) (stem : List Char) : List Char :=
  if endsWith stem "at" || endsWith stem "bl" || endsWith stem "iz" then stem ++ ['e']
  else if doubles.any (endsWith stem) then stem.dropLast
  else if stem.length = regions.first && endsShort stem then stem ++ ['e']
  else stem

/-- The endings of the past and of the present participle. -/
def participle (regions : Regions) (word : List Char) : List Char :=
  match findEnding? word ["eedly", "ingly", "edly", "eed", "ing", "ed"] with
  | some (stem, "eedly") | some (stem, "eed") =>
    if regions.first ≤ stem.length then stem ++ ['e', 'e'] else word
  | some (stem, _) => if stem.any isVowel then mend regions stem else word
  | none => word

/-- A final `y` after a consonant that is not the first character. -/
def finalY (word : List Char) : List Char :=
  match word.reverse with
  | y :: c :: rest =>
    if (y == 'y' || y == 'Y') && !isVowel c && !rest.isEmpty then (('i' :: c :: rest)).reverse
    else word
  | _ => word

/-- The endings of the second step with what replaces them, longer ones first. -/
def secondEndings : List (String × String) := [
  ("ational", "ate"), ("fulness", "ful"), ("iveness", "ive"), ("ization", "ize"),
  ("ousness", "ous"), ("biliti", "ble"), ("lessli", "less"), ("tional", "tion"), ("alism", "al"),
  ("aliti", "al"), ("ation", "ate"), ("entli", "ent"), ("fulli", "ful"), ("iviti", "ive"),
  ("ousli", "ous"), ("abli", "able"), ("alli", "al"), ("anci", "ance"), ("ator", "ate"),
  ("enci", "ence"), ("izer", "ize"), ("bli", "ble"), ("ogi", "og"), ("li", "")]

/-- The endings of the third step with what replaces them, longer ones first. -/
def thirdEndings : List (String × String) := [
  ("ational", "ate"), ("tional", "tion"), ("alize", "al"), ("ative", ""), ("icate", "ic"),
  ("iciti", "ic"), ("ical", "ic"), ("ness", ""), ("ful", "")]

/-- The endings that go in the fourth step, longer ones first. -/
def fourthEndings : List String := [
  "ement", "able", "ance", "ence", "ible", "ment", "ant", "ate", "ent", "ion", "ism", "iti", "ive",
  "ize", "ous", "al", "er", "ic"]

/-- The characters after which `li` goes. -/
def takesLi (c : Char) : Bool :=
  "cdeghkmnrt".toList.contains c

/-- Whether an ending of the second step goes after this stem. -/
def secondQualifies (stem : List Char) (ending : String) : Bool :=
  match ending with
  | "ogi" => stem.getLast? == some 'l'
  | "li" => stem.getLast?.any takesLi
  | _ => true

def second (regions : Regions) (word : List Char) : List Char :=
  match findEnding? word (secondEndings.map (·.1)) with
  | some (stem, ending) =>
    if regions.first ≤ stem.length && secondQualifies stem ending then
      stem ++ ((secondEndings.lookup ending).getD "").toList
    else word
  | none => word

def third (regions : Regions) (word : List Char) : List Char :=
  match findEnding? word (thirdEndings.map (·.1)) with
  | some (stem, ending) =>
    if regions.first ≤ stem.length && (ending != "ative" || regions.second ≤ stem.length) then
      stem ++ ((thirdEndings.lookup ending).getD "").toList
    else word
  | none => word

/-- Whether an ending of the fourth step goes after this stem. -/
def fourthQualifies (stem : List Char) (ending : String) : Bool :=
  ending != "ion" || stem.getLast? == some 's' || stem.getLast? == some 't'

def fourth (regions : Regions) (word : List Char) : List Char :=
  match findEnding? word fourthEndings with
  | some (stem, ending) =>
    if regions.second ≤ stem.length && fourthQualifies stem ending then stem else word
  | none => word

/-- A final `e` or the second `l` of two. -/
def fifth (regions : Regions) (word : List Char) : List Char :=
  match findEnding? word ["e", "l"] with
  | some (stem, "e") =>
    if regions.second ≤ stem.length || (regions.first ≤ stem.length && !endsShort stem) then stem
    else word
  | some (stem, _) =>
    if regions.second ≤ stem.length && stem.getLast? == some 'l' then stem else word
  | none => word

/-- Words with a stem of their own. -/
def irregular : List (String × String) := [
  ("skis", "ski"), ("skies", "sky"), ("dying", "die"), ("lying", "lie"), ("tying", "tie"),
  ("idly", "idl"), ("gently", "gentl"), ("ugly", "ugli"), ("early", "earli"), ("only", "onli"),
  ("singly", "singl"), ("sky", "sky"), ("news", "news"), ("howe", "howe"), ("atlas", "atlas"),
  ("cosmos", "cosmos"), ("bias", "bias"), ("andes", "andes")]

/-- Words that are done once the plural ending has gone. -/
def complete : List String :=
  ["inning", "outing", "canning", "herring", "earring", "proceed", "exceed", "succeed"]

/-- The steps of a word of three characters or more. -/
def reduce (word : List Char) : List Char :=
  let marked := mark word
  let regions := Regions.of marked
  let singular := plural marked
  if complete.contains (String.ofList singular) then unmark singular
  else
    unmark (fifth regions (fourth regions (third regions (second regions
      (finalY (participle regions singular))))))

end PageSearch.Stem

namespace PageSearch

/-- The stem of a word in small letters. -/
def stem (word : List Char) : List Char :=
  match Stem.irregular.lookup (String.ofList word) with
  | some special => special.toList
  | none => if word.length < 3 then word else Stem.reduce word

end PageSearch
