import OneTimeCode.Language.Header
import OneTimeCode.Language.Item

/-!
# Language lookup

Ranges are consulted by descending weight, and each is shortened from its end until it names an
allowed tag. A range of weight zero excludes the tags that it matches, and the wildcard alone
selects none.
-/
namespace OneTimeCode.Lookup
open Text

/-- An allowed tag with its spelling in lower case cut into subtags. -/
structure Candidate where
  lowered : Text
  tag : Text

def Candidate.subtags (c : Candidate) : List Text := pieces '-' c.lowered

/-- Subtag by subtag the same or a wildcard. -/
def covers : List Text → List Text → Bool
  | [], [] => true
  | want :: wants, subtag :: subtags => (want = wildcard || want = subtag) && covers wants subtags
  | _, _ => false

/-- Of tags that differ in case only the last spelling counts. -/
def spellings (supported : List Text) : List Candidate :=
  (supported.foldl (fun named tag => Named.put (lower tag) tag named) ([] : Named Text)).map
    fun entry => ⟨entry.1, entry.2⟩

def isExcluded (zeros : List LanguageRange) (c : Candidate) : Bool :=
  zeros.any fun zero => covers zero.subtags c.subtags

def candidates (zeros : List LanguageRange) (supported : List Text) : List Candidate :=
  ((spellings supported).filter fun c => !isExcluded zeros c).mergeSort
    fun a b => !precedes b.lowered a.lowered

/-- The first candidate that the subtags match. -/
def named? (subtags : List Text) (found : List Candidate) : Option Text :=
  (found.find? fun c => covers subtags c.subtags).map (·.tag)

/-- Drops the last subtag, and with it a single letter in front of it. -/
def truncate (subtags : List Text) : List Text :=
  let shorter := subtags.dropLast
  if (shorter.getLast?.map List.length) = some 1 then shorter.dropLast else shorter

theorem truncate_length_lt {subtags : List Text} (h : subtags ≠ []) :
    (truncate subtags).length < subtags.length := by
  have hp : 0 < subtags.length := List.length_pos_iff.2 h
  unfold truncate
  simp only
  split <;> simp only [List.length_dropLast] <;> omega

/-- The subtags and their truncations down to the last that is not empty. -/
def fallbacks (subtags : List Text) : List (List Text) :=
  if _h : subtags = [] then [] else subtags :: fallbacks (truncate subtags)
termination_by subtags.length
decreasing_by exact truncate_length_lt _h

/-- The allowed tag that satisfies the preferences best. -/
def choose (ranges : List LanguageRange) (supported : List Text) : Option Text :=
  let ranked := Header.byWeight ranges
  let found := candidates (ranked.filter (·.weight.isZero)) supported
  ranked.findSome? fun range =>
    if range.weight.isZero || range.isWildcard then none
    else (fallbacks range.subtags).findSome? fun subtags => named? subtags found

def best (items : List RangeItem) (supported : List Text) : Except RangeError (Option Text) := do
  let ranges ← items.mapM RangeItem.range
  pure (choose ranges supported)

/-- The tag of a value, which has to be a text. -/
def readTag (value : Json) : Except RangeError Text :=
  match value.text? with
  | some tag => .ok tag
  | none => .error (.mismatch .notText)

/-- The best of the tags as given by a caller. Null in the place of a list of ranges cannot be
looked up, and the ranges are read before the tags. -/
def bestGiven (items : Option (List RangeItem)) (supported : List Json) :
    Except RangeError (Option Text) := do
  let some items := items | throw (.mismatch .otherKind)
  let ranges ← items.mapM RangeItem.range
  let tags ← supported.mapM readTag
  pure (choose ranges tags)

end OneTimeCode.Lookup
