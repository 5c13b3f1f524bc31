import OneTimeCode.Counter

/-!
# Tags of counters

A counter that is told by tags of different names carries exactly these tags, in whatever order they
were listed.
-/
namespace OneTimeCode

namespace Tag

def values (tags : List Tag) : Named Json := tags.map fun tag => (tag.1, .text tag.2)

theorem ofList_values {tags : List Tag} (h : (tags.map (·.1)).Nodup) :
    Named.ofList (values tags) = values tags := by
  apply Named.ofList_of_nodup
  rw [values, List.map_map]
  exact h

end Tag

namespace CounterKey

def ofTags (name : Text) (tags : List Tag) : CounterKey := of name (Tag.values tags)

@[simp] theorem name_ofTags (name : Text) (tags : List Tag) : (ofTags name tags).name = name := rfl

theorem mem_tags_ofTags {name : Text} {tags : List Tag} (h : (tags.map (·.1)).Nodup) (tag : Tag) :
    tag ∈ (ofTags name tags).tags ↔ tag ∈ tags := by
  show tag ∈ List.mergeSort _ _ ↔ _
  rw [List.mem_mergeSort, Tag.ofList_values h, Tag.values, List.map_map]
  simp [Function.comp_def]

theorem any_tags_ofTags {name : Text} {tags : List Tag} (h : (tags.map (·.1)).Nodup)
    (p : Tag → Bool) : (ofTags name tags).tags.any p = tags.any p := by
  rw [Bool.eq_iff_iff, List.any_eq_true, List.any_eq_true]
  simp only [mem_tags_ofTags h]

theorem carries_ofTags {name : Text} {tags wanted : List Tag} (h : (tags.map (·.1)).Nodup)
    (hw : (wanted.map (·.1)).Nodup) :
    (ofTags name tags).carries (Tag.values wanted) = wanted.all fun tag => decide (tag ∈ tags) := by
  rw [carries, Tag.ofList_values hw, Tag.values, List.all_map]
  congr 1
  funext tag
  rw [Bool.eq_iff_iff, decide_eq_true_iff, ← mem_tags_ofTags h tag]
  exact List.contains_iff_mem

end CounterKey
end OneTimeCode
