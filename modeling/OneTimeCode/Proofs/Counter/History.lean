import Mathlib.Data.List.Permutation
import OneTimeCode.Proofs.Counter.Registry
import OneTimeCode.Proofs.Counter.Tags
import OneTimeCode.Proofs.Named
import OneTimeCode.Proofs.Sorting

/-!
# Registries and their history

What a registry holds is told by the increments since it was last reset: one counter for each name
and set of tags, with the sum of their amounts. So neither the order of the increments nor the order
in which tags were listed makes a difference to any count.
-/
namespace OneTimeCode

structure Increment where
  name : Text
  tags : Named Json
  amount : Int

namespace Increment

/-- The tag's value is the text of what was given under the tag's name. -/
def HasTag (increment : Increment) (tag : Tag) : Prop :=
  (Named.get? tag.1 (Named.ofList increment.tags)).map Json.display = some tag.2

instance (increment : Increment) (tag : Tag) : Decidable (increment.HasTag tag) :=
  inferInstanceAs (Decidable (_ = _))

/-- The increment counts when a name is asked for with these tags. -/
def Answers (increment : Increment) (name : Text) (wanted : Named Text) : Prop :=
  increment.name = name ∧ ∀ tag ∈ Named.ofList wanted, increment.HasTag tag

instance (increment : Increment) (name : Text) (wanted : Named Text) :
    Decidable (increment.Answers name wanted) := inferInstanceAs (Decidable (_ ∧ _))

/-- The key has the name of the increment and lists its set of tags in their order. -/
structure IsUnder (increment : Increment) (key : CounterKey) : Prop where
  name : key.name = increment.name
  tags : ∀ tag, tag ∈ key.tags ↔ increment.HasTag tag
  sorted : key.tags.Pairwise fun a b => Tag.precedes a b = true

def key (increment : Increment) : CounterKey := .of increment.name increment.tags

theorem mem_tags_key (increment : Increment) (tag : Tag) :
    tag ∈ increment.key.tags ↔ increment.HasTag tag := by
  show tag ∈ List.mergeSort _ _ ↔ _
  rw [List.mem_mergeSort, List.mem_map, HasTag, Option.map_eq_some_iff]
  simp only [Named.get?_eq_some_iff (Named.nodup_names_ofList _)]
  constructor
  · rintro ⟨entry, hm, rfl⟩
    exact ⟨entry.2, hm, rfl⟩
  · rintro ⟨value, hm, hv⟩
    exact ⟨_, hm, Prod.ext rfl hv⟩

theorem sorted_tags_key (increment : Increment) :
    increment.key.tags.Pairwise fun a b => Tag.precedes a b = true := by
  apply pairwise_mergeSort_of_nodup Tag.isStrictTotalOrder
  have hnames := Named.nodup_names_ofList increment.tags
  apply List.Nodup.of_map Prod.fst
  rw [List.map_map]
  exact hnames

theorem isUnder_key (increment : Increment) : increment.IsUnder increment.key :=
  ⟨rfl, increment.mem_tags_key, increment.sorted_tags_key⟩

/-- Sorted tags are determined by which tags they are, so an increment is under one key only. -/
theorem isUnder_iff {increment : Increment} {key : CounterKey} :
    increment.IsUnder key ↔ increment.key = key := by
  constructor
  · intro h
    have horder := Tag.isStrictTotalOrder
    have : Std.Irrefl fun a b : Tag => Tag.precedes a b = true := ⟨horder.irrefl⟩
    have : Std.Antisymm fun a b : Tag => Tag.precedes a b = true :=
      ⟨fun _ _ hab hba => absurd (horder.trans _ _ _ hab hba) (horder.irrefl _)⟩
    have htags : increment.key.tags = key.tags :=
      List.Pairwise.eq_of_mem_iff increment.sorted_tags_key h.sorted fun tag => by
        rw [mem_tags_key, h.tags]
    cases key
    cases h.name
    cases htags
    rfl
  · rintro rfl
    exact increment.isUnder_key

instance (increment : Increment) (key : CounterKey) : Decidable (increment.IsUnder key) :=
  decidable_of_iff _ isUnder_iff.symm

theorem carries_key_iff (increment : Increment) (wanted : Named Text) :
    increment.key.carries (Tag.values wanted) = true ↔
      ∀ tag ∈ Named.ofList wanted, increment.HasTag tag := by
  rw [CounterKey.carries, Tag.values, Named.ofList_mapValues, List.all_map, List.all_eq_true]
  simp only [Function.comp_apply, Json.text?_text, List.contains_iff_mem, mem_tags_key]

def sumOf (increments : List Increment) (p : Increment → Prop) [DecidablePred p] : Int :=
  ((increments.filter p).map (·.amount)).sum

end Increment

namespace Counters

/-- What is done to a registry. -/
inductive Step where
  | increment (given : Increment)
  | reset

def Step.isReset : Step → Bool
  | increment _ => false
  | reset => true

def sinceReset : List Step → List Increment
  | [] => []
  | .reset :: rest => sinceReset rest
  | .increment given :: rest =>
    if rest.any Step.isReset then sinceReset rest else given :: sinceReset rest

def step (counters : Counters) : Step → Counters
  | .increment given => counters.increment given.name given.tags given.amount
  | .reset => .empty

def run (counters : Counters) (history : List Step) : Counters := history.foldl step counters

/-- The counters of a registry are exactly those that were incremented, each once and in order, with
the sum of its amounts. -/
structure Tallies (counters : Counters) (increments : List Increment) : Prop where
  listed : ∀ key, key ∈ counters.entries.map (·.1) ↔
    ∃ increment ∈ increments, increment.IsUnder key
  ordered : (counters.entries.map (·.1)).Pairwise fun a b => a.precedes b = true
  once : (counters.entries.map (·.1)).Nodup
  summed : ∀ entry ∈ counters.entries,
    entry.2 = Increment.sumOf increments (·.IsUnder entry.1)

def Sums (counters : Counters) (increments : List Increment) : Prop :=
  ∀ (name : Text) (wanted : Named Text), (∀ tag ∈ wanted, tag.1 ∉ reservedNames) →
    counters.countGiven name (Tag.values wanted) =
      .ok (Increment.sumOf increments (·.Answers name wanted))

def addIncrements (counters : Counters) (increments : List Increment) : Counters :=
  counters.addAll (increments.map fun increment => (increment.key, increment.amount))

theorem run_eq_addIncrements (counters : Counters) (history : List Step) :
    counters.run history =
      (if history.any Step.isReset then .empty else counters).addIncrements (sinceReset history) := by
  induction history generalizing counters with
  | nil => rfl
  | cons first rest ih =>
    show (counters.step first).run rest = _
    rw [ih]
    cases first with
    | reset =>
      have hempty : (if rest.any Step.isReset then Counters.empty else counters.step .reset) =
          .empty := ite_self _
      rw [hempty]
      rfl
    | increment given =>
      rw [sinceReset, List.any_cons, Step.isReset, Bool.false_or]
      split
      · rfl
      · rfl

theorem total_addIncrements (counters : Counters) (p : CounterKey → Bool)
    (increments : List Increment) : (counters.addIncrements increments).total p =
      counters.total p + Increment.sumOf increments (fun increment => p increment.key = true) := by
  rw [addIncrements, total_addAll, List.filter_map, List.map_map, Increment.sumOf]
  simp only [Function.comp_def, Bool.decide_eq_true]

theorem isOrdered_addIncrements (increments : List Increment) :
    (empty.addIncrements increments).IsOrdered := isOrdered_addAll isOrdered_empty _

theorem tallies_addIncrements (increments : List Increment) :
    (empty.addIncrements increments).Tallies increments where
  listed key := by
    rw [addIncrements, mem_keys_addAll_iff, List.map_map, List.mem_map]
    simp only [Increment.isUnder_iff]
    simp [empty]
  ordered := List.pairwise_map.2 (isOrdered_addIncrements increments)
  once := nodup_keys (isOrdered_addIncrements increments)
  summed entry hm := by
    rw [value_eq_total (isOrdered_addIncrements increments) hm, total_addIncrements]
    simp only [decide_eq_true_eq, Increment.isUnder_iff]
    exact Int.zero_add _

theorem sums_addIncrements (increments : List Increment) :
    (empty.addIncrements increments).Sums increments := by
  intro name wanted hw
  have hask : (Named.ofList (Tag.values wanted)).all isAskable = true := by
    rw [List.all_eq_true]
    intro tag ht
    obtain ⟨asked, hm, rfl⟩ := List.mem_map.1 (Named.mem_of_mem_ofList ht)
    have hname : reservedNames.contains asked.1 = false := by
      simpa using hw asked hm
    rw [isAskable, hname]
    rfl
  rw [countGiven, if_pos hask, count_eq_total, total_addIncrements]
  simp only [Bool.and_eq_true, decide_eq_true_eq, Increment.carries_key_iff]
  exact congrArg Except.ok (Int.zero_add _)

/-- After any history of increments and resets the registry holds the sums of the increments since
the last reset, for each name and set of tags and for each question; in what order these increments
came makes no difference. -/
theorem tallies_run (history : List Step) :
    let counters := empty.run history
    counters.Sums (sinceReset history) ∧ counters.Tallies (sinceReset history) ∧
      ∀ other, (sinceReset history).Perm (sinceReset other) → empty.run other = counters := by
  have hrun (steps : List Step) : empty.run steps = empty.addIncrements (sinceReset steps) := by
    rw [run_eq_addIncrements, ite_self]
  refine ⟨?_, ?_, fun other hp => ?_⟩
  · rw [hrun]
    exact sums_addIncrements _
  · rw [hrun]
    exact tallies_addIncrements _
  · rw [hrun, hrun]
    exact (addAll_perm isOrdered_empty (hp.map _)).symm

theorem tallies_run_relisted :
    let first : Increment := ⟨"sent", [("channel", .text "sms"), ("code", .int 1)], 3⟩
    let second : Increment := ⟨"sent", [("code", .text "1"), ("channel", .text "sms")], -3⟩
    let other : Increment := ⟨"sent", [("channel", .text "voice")], 5⟩
    let history : List Step :=
      [.increment second, .reset, .increment first, .increment other, .increment second]
    let reordered : List Step := [.increment second, .increment first, .increment other]
    let counters := empty.run history
    counters.countGiven "sent" (Tag.values [("channel", "sms")]) = .ok 0 ∧
      counters.countGiven "sent" (Tag.values []) = .ok 5 ∧
      counters.entries.map (·.2) = [0, 5] ∧
      (sinceReset history).Perm (sinceReset reordered) ∧ empty.run reordered = counters := by
  intro first second other history reordered counters
  obtain ⟨hsums, -, hperm⟩ := tallies_run history
  have hp : ([first, other] ++ [second]).Perm ([second] ++ [first, other]) := List.perm_append_comm
  have hsms := hsums "sent" [("channel", "sms")] (by decide)
  have hall := hsums "sent" [] (by simp)
  have hsum : Increment.sumOf (sinceReset history) (·.Answers "sent" [("channel", "sms")]) = 0 := by
    decide +kernel
  have htotal : Increment.sumOf (sinceReset history) (·.Answers "sent" []) = 5 := by
    decide +kernel
  rw [hsum] at hsms
  rw [htotal] at hall
  have hvalues : counters.entries.map (·.2) = [0, 5] := by cbv
  exact ⟨hsms, hall, hvalues, hp, hperm reordered hp⟩

end Counters
end OneTimeCode
