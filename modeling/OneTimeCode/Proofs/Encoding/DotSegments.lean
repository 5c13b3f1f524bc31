import Mathlib.Data.List.TakeWhile
import OneTimeCode.Settings
import OneTimeCode.Proofs.Text.Pieces

/-!
# Paths and dot segments

The path of a web address is what stands between its authority and a query or fragment. Whoever
resolves an address takes the dot segments out of its path first: one dot stands for the place that
was reached, two dots for the place above it. So a last segment stays where it is exactly if it is
neither of them.
-/
namespace OneTimeCode.Address
open Text

def isMark (c : CodePoint) : Bool := c = '?' || c = '#'

def isDelimiter (c : CodePoint) : Bool := c = '/' || isMark c

def pathBehind (t : Text) : Text := (t.dropWhile (!isDelimiter ·)).takeWhile (!isMark ·)

def path (url : Text) : Text := pathBehind ((after ':' url).drop 2)

/-- The path without its last segment and the slash in front of it. -/
def dropSegment (path : Text) : Text :=
  ((path.reverse.dropWhile fun (c : CodePoint) => c != '/').drop 1).reverse

/-- Moves the input to the output, each time up to the next slash, and leaves the dot segments out:
for two dots the last segment of the output goes as well. -/
def removeDots (output : Text) : Text → Text
  | [] => output
  | .char '.' :: .char '.' :: .char '/' :: rest => removeDots output rest
  | .char '.' :: .char '/' :: rest => removeDots output rest
  | .char '/' :: .char '.' :: .char '/' :: rest => removeDots output ('/' :: rest)
  | [.char '/', .char '.'] => removeDots output "/"
  | .char '/' :: .char '.' :: .char '.' :: .char '/' :: rest =>
    removeDots (dropSegment output) ('/' :: rest)
  | [.char '/', .char '.', .char '.'] => removeDots (dropSegment output) "/"
  | [.char '.'] => output
  | [.char '.', .char '.'] => output
  | c :: rest =>
    removeDots (output ++ c :: before '/' rest)
      (rest.dropWhile fun (c : CodePoint) => c != '/')
termination_by input => input.length
decreasing_by
  all_goals simp only [List.length_cons, List.length_nil]
  all_goals first
    | omega
    | decide
    | exact Nat.lt_succ_of_le (List.dropWhile_suffix _).length_le

/-- The path of an address as it is resolved. -/
def resolve (url : Text) : Text := removeDots [] (path url)

/-! ## Segment by segment -/

def IsNext (rest : Text) : Prop := rest = [] ∨ ∃ others, rest = .char '/' :: others

section
variable {segment rest : Text}

theorem ne_slash_of_mem (hs : (CodePoint.char '/') ∉ segment) :
    ∀ c ∈ segment, (c != CodePoint.char '/') = true := by
  intro c hc
  rw [bne_iff_ne]
  exact fun he => hs (he ▸ hc)

theorem before_slash (hs : (CodePoint.char '/') ∉ segment) (hr : IsNext rest) :
    before '/' (segment ++ rest) = segment := by
  rw [before, List.takeWhile_append_of_pos (ne_slash_of_mem hs)]
  rcases hr with rfl | ⟨others, rfl⟩ <;> simp

theorem dropWhile_slash (hs : (CodePoint.char '/') ∉ segment) (hr : IsNext rest) :
    ((segment ++ rest).dropWhile fun (c : CodePoint) => c != '/') = rest := by
  rw [List.dropWhile_append_of_pos (ne_slash_of_mem hs)]
  rcases hr with rfl | ⟨others, rfl⟩ <;> simp

theorem removeDots_nil (output : Text) : removeDots output [] = output := by
  rw [removeDots]

theorem removeDots_segment (hs : (CodePoint.char '/') ∉ segment) (hr : IsNext rest)
    (hone : segment ≠ ".") (htwo : segment ≠ "..") (output : Text) :
    removeDots output (.char '/' :: (segment ++ rest)) =
      removeDots (output ++ .char '/' :: segment) rest := by
  have hbefore := before_slash hs hr
  rw [removeDots.eq_def]
  split
  · next heq => cases heq
  · next heq => cases heq
  · next heq => cases heq
  · next heq =>
    rw [(List.cons.inj heq).2] at hbefore
    exact absurd hbefore.symm hone
  · next heq =>
    rw [(List.cons.inj heq).2] at hbefore
    exact absurd hbefore.symm hone
  · next heq =>
    rw [(List.cons.inj heq).2] at hbefore
    exact absurd hbefore.symm htwo
  · next heq =>
    rw [(List.cons.inj heq).2] at hbefore
    exact absurd hbefore.symm htwo
  · next heq => cases heq
  · next heq => cases heq
  · next heq =>
    cases heq
    rw [hbefore, dropWhile_slash hs hr]

end

/-- The output once a segment was met. -/
def enter (output segment : Text) : Text :=
  if segment = "." then output
  else if segment = ".." then dropSegment output
  else output ++ .char '/' :: segment

/-- The output once the last segment was met, which leaves its slash behind if it has to go. -/
def finish (output segment : Text) : Text :=
  if segment = "." ∨ segment = ".." then enter output segment ++ "/" else enter output segment

theorem removeDots_enter {segment : Text} (hs : (CodePoint.char '/') ∉ segment)
    (output rest : Text) : removeDots output (.char '/' :: (segment ++ .char '/' :: rest)) =
      removeDots (enter output segment) (.char '/' :: rest) := by
  unfold enter
  split
  · next hone =>
    rw [hone]
    show removeDots output (.char '/' :: .char '.' :: .char '/' :: rest) = _
    rw [removeDots]
  · next hone =>
    split
    · next htwo =>
      rw [htwo]
      show removeDots output (.char '/' :: .char '.' :: .char '.' :: .char '/' :: rest) = _
      rw [removeDots]
    · next htwo => exact removeDots_segment hs (.inr ⟨rest, rfl⟩) hone htwo output

theorem removeDots_finish {segment : Text} (hs : (CodePoint.char '/') ∉ segment)
    (output : Text) : removeDots output (.char '/' :: segment) = finish output segment := by
  have hkept {last : Text} (hl : (CodePoint.char '/') ∉ last) (hone : last ≠ ".")
      (htwo : last ≠ "..") (sofar : Text) :
      removeDots sofar (.char '/' :: last) = sofar ++ .char '/' :: last := by
    have hstep := removeDots_segment hl (.inl rfl) hone htwo sofar
    rwa [List.append_nil, removeDots_nil] at hstep
  have hslash := fun sofar => hkept List.not_mem_nil (by decide) (by decide) sofar
  by_cases hone : segment = "."
  · rw [hone]
    show removeDots output [.char '/', .char '.'] = output ++ "/"
    rw [removeDots]
    exact hslash output
  · by_cases htwo : segment = ".."
    · rw [htwo]
      show removeDots output [.char '/', .char '.', .char '.'] = dropSegment output ++ "/"
      rw [removeDots]
      exact hslash (dropSegment output)
    · rw [hkept hs hone htwo, finish, if_neg (not_or.2 ⟨hone, htwo⟩), enter, if_neg hone,
        if_neg htwo]

/-! ## Whole paths -/

def ofSegments (segments : List Text) : Text := segments.flatMap fun segment => .char '/' :: segment

theorem ofSegments_concat (segments : List Text) (last : Text) :
    ofSegments (segments ++ [last]) = ofSegments segments ++ .char '/' :: last := by
  simp [ofSegments]

/-- What begins with a slash is made of the segments between its slashes. -/
theorem ofSegments_pieces (t : Text) : ofSegments (pieces '/' t) = .char '/' :: t := by
  induction t with
  | nil => rfl
  | cons c rest ih =>
    unfold pieces
    split
    · next hc =>
      show .char '/' :: ofSegments (pieces '/' rest) = _
      rw [ih, hc]
    · cases hp : pieces '/' rest with
      | nil => exact absurd hp (pieces_ne_nil '/' rest)
      | cons first others =>
        rw [hp] at ih
        have htail : first ++ ofSegments others = rest := (List.cons.inj ih).2
        show .char '/' :: c :: (first ++ ofSegments others) = _
        rw [htail]

section
variable {segments : List Text} (hs : ∀ segment ∈ segments, (CodePoint.char '/') ∉ segment)
include hs

theorem removeDots_ofSegments (output rest : Text) :
    removeDots output (ofSegments segments ++ .char '/' :: rest) =
      removeDots (segments.foldl enter output) (.char '/' :: rest) := by
  induction segments generalizing output with
  | nil => rfl
  | cons first others ih =>
    have hnext : ∃ next, ofSegments others ++ .char '/' :: rest = .char '/' :: next := by
      cases others with
      | nil => exact ⟨rest, rfl⟩
      | cons second others => exact ⟨_, rfl⟩
    obtain ⟨next, hn⟩ := hnext
    have hfirst := removeDots_enter (hs first List.mem_cons_self) output next
    have hrest := ih (fun segment hm => hs segment (List.mem_cons_of_mem _ hm)) (enter output first)
    rw [← hn, hrest] at hfirst
    show removeDots output (.char '/' :: (first ++ ofSegments others) ++ .char '/' :: rest) = _
    rw [List.cons_append, List.append_assoc, hfirst]
    rfl

/-- A path is resolved by meeting its segments one after the other. -/
theorem removeDots_path {last : Text} (hl : (CodePoint.char '/') ∉ last) (output : Text) :
    removeDots output (ofSegments segments ++ .char '/' :: last) =
      finish (segments.foldl enter output) last := by
  rw [removeDots_ofSegments hs, removeDots_finish hl]

end

example : removeDots [] "/a/b/c/./../../g" = "/a/g" := by decide +kernel

theorem dropSegment_append {segment : Text} (hs : (CodePoint.char '/') ∉ segment) (front : Text) :
    dropSegment (front ++ .char '/' :: segment) = front := by
  have hall : ∀ c ∈ segment.reverse, (c != CodePoint.char '/') = true :=
    fun c hc => ne_slash_of_mem hs c (List.mem_reverse.1 hc)
  rw [dropSegment, List.reverse_append, List.reverse_cons, List.append_assoc,
    List.dropWhile_append_of_pos hall]
  simp

/-- Behind a segment that is no dot segment, a further one is met where that segment was reached. -/
theorem removeDots_below {name segment : Text} (hn : (CodePoint.char '/') ∉ name)
    (hone : name ≠ ".") (htwo : name ≠ "..") (hs : (CodePoint.char '/') ∉ segment) (front : Text) :
    ∃ reached, removeDots [] (.char '/' :: front ++ .char '/' :: name) =
        reached ++ .char '/' :: name ∧
      removeDots [] (.char '/' :: front ++ .char '/' :: name ++ .char '/' :: segment) =
        finish (reached ++ .char '/' :: name) segment := by
  have hfront : ∀ piece ∈ pieces '/' front, (CodePoint.char '/') ∉ piece :=
    fun piece hp => not_mem_of_mem_pieces hp
  have hboth : ∀ piece ∈ pieces '/' front ++ [name], (CodePoint.char '/') ∉ piece := by
    intro piece hp
    rcases List.mem_append.1 hp with hp | hp
    · exact hfront piece hp
    · rwa [List.mem_singleton.1 hp]
  have hname (output : Text) : enter output name = output ++ .char '/' :: name := by
    rw [enter, if_neg hone, if_neg htwo]
  refine ⟨(pieces '/' front).foldl enter [], ?_, ?_⟩
  · rw [← ofSegments_pieces, removeDots_path hfront hn, finish, if_neg (not_or.2 ⟨hone, htwo⟩),
      hname]
  · rw [← ofSegments_pieces, ← ofSegments_concat, removeDots_path hboth hs,
      List.foldl_append]
    exact congrArg (finish · segment) (hname _)

/-! ## The path of an address -/

theorem mem_dropWhile_of_stops {p : CodePoint → Bool} {c : CodePoint} {t : Text} (h : c ∈ t)
    (hc : p c = false) : c ∈ t.dropWhile p := by
  rw [← List.takeWhile_append_dropWhile (p := p) (l := t), List.mem_append] at h
  rcases h with h | h
  · rw [List.mem_takeWhile_imp h] at hc
    cases hc
  · exact h

/-- More behind a text that has a path lengthens the path, unless a query or fragment has begun. -/
theorem pathBehind_append {t : Text} (h : (CodePoint.char '/') ∈ t) (more : Text) :
    pathBehind (t ++ more) =
      if t.any isMark then pathBehind t else pathBehind t ++ more.takeWhile (!isMark ·) := by
  have hkept := mem_dropWhile_of_stops (p := (!isDelimiter ·)) h (by decide)
  have hne : ((t.dropWhile (!isDelimiter ·)).isEmpty) = false := by
    rw [List.isEmpty_eq_false_iff]
    exact List.ne_nil_of_mem hkept
  have hdrop : (t ++ more).dropWhile (!isDelimiter ·) = t.dropWhile (!isDelimiter ·) ++ more := by
    rw [List.dropWhile_append, hne, if_neg Bool.false_ne_true]
  rw [pathBehind, hdrop]
  split
  · next hm =>
    obtain ⟨c, hc, hmark⟩ := List.any_eq_true.1 hm
    have hthere := mem_dropWhile_of_stops (p := (!isDelimiter ·)) hc (by simp [isDelimiter, hmark])
    rw [List.takeWhile_append, if_neg]
    · rfl
    · intro hlength
      have hself := (List.takeWhile_prefix (!isMark ·)).eq_of_length hlength
      have hall := List.takeWhile_eq_self_iff.1 hself c hthere
      simp [hmark] at hall
  · next hm =>
    have hall : ∀ c ∈ t.dropWhile (!isDelimiter ·), (!isMark c) = true := by
      intro c hc
      rw [Bool.not_eq_true', ← Bool.not_eq_true]
      exact fun hmark => hm (List.any_eq_true.2 ⟨c, (List.dropWhile_sublist _).subset hc, hmark⟩)
    rw [List.takeWhile_append_of_pos hall, pathBehind, List.takeWhile_eq_self_iff.2 hall]

theorem exists_pathBehind {t : Text} (h : (CodePoint.char '/') ∈ t) (hm : t.any isMark = false) :
    ∃ front, pathBehind t = .char '/' :: front := by
  cases hd : t.dropWhile (!isDelimiter ·) with
  | nil =>
    have hkept := mem_dropWhile_of_stops (p := (!isDelimiter ·)) h (by decide)
    rw [hd] at hkept
    cases hkept
  | cons c rest =>
    have hc : c ∈ t.dropWhile (!isDelimiter ·) := by simp [hd]
    have hdelimiter : isDelimiter c = true := by
      have hhead := List.head_dropWhile_not (!isDelimiter ·) (List.ne_nil_of_mem hc)
      simpa [hd] using hhead
    have hnot : isMark c = false := by
      rw [Bool.eq_false_iff]
      exact List.any_eq_false.1 hm c ((List.dropWhile_sublist _).subset hc)
    rw [isDelimiter, hnot, Bool.or_false, decide_eq_true_eq] at hdelimiter
    refine ⟨rest.takeWhile (!isMark ·), ?_⟩
    rw [pathBehind, hd, List.takeWhile_cons_of_pos (by simp [hnot]), hdelimiter]

end OneTimeCode.Address
