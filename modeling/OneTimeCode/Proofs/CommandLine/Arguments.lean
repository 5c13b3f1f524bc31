import OneTimeCode.CommandLine.Arguments
import OneTimeCode.Proofs.Results

/-!
# What the arguments of a command can be

Whatever the words of a command line, the value of an option is a text, absent, or the empty list
that the divider leaves. So every value that a command gets can be used where a text belongs.
-/
namespace OneTimeCode
open Text

/-- The value of an option: absent, the empty list for the divider, or a text. -/
inductive Json.IsOption : Json → Prop
  | absent : IsOption .null
  | divider : IsOption (.list [])
  | given (t : Text) : IsOption (.text t)

theorem Json.IsOption.requireText {value : Json} (h : value.IsOption) :
    ∃ t, value.requireText = .ok t := by
  cases h with
  | absent => exact ⟨[], rfl⟩
  | divider => exact ⟨[], rfl⟩
  | given t => exact ⟨t, Json.requireText_text t⟩

namespace CommandLine

inductive Command.HasOptions : Command → Prop
  | send (destination : Text) {code channel clientType languages : Json} (code_ok : code.IsOption)
    (channel_ok : channel.IsOption) (type_ok : clientType.IsOption)
    (languages_ok : languages.IsOption) :
    HasOptions (.send destination code channel clientType languages)
  | approve (id : Text) {agent context : Json} (agent_ok : agent.IsOption)
    (context_ok : context.IsOption) : HasOptions (.approve id agent context)

namespace Details

def HasOptions (details : Details) : Prop := ∀ entry ∈ details.values, entry.2.IsOption

theorem HasOptions.withValue {details found : Details} (h : details.HasOptions)
    {name : OptionName} {value : Option Text} (hv : details.withValue name value = .ok found) :
    found.HasOptions := by
  unfold Details.withValue at hv
  split at hv
  · cases hv
    intro entry hm
    rcases List.mem_cons.1 hm with rfl | hm
    · cases value with
      | none => exact .divider
      | some t => exact .given t
    · exact h entry hm
  · cases hv

theorem HasOptions.withArgument {details : Details} (h : details.HasOptions) (text : Text) :
    (details.withArgument text).HasOptions := by
  unfold Details.withArgument
  split <;> exact h

theorem HasOptions.read {details found : Details} {words : List Word} (h : details.HasOptions)
    (hr : details.read words = .ok found) : found.HasOptions := by
  fun_induction Details.read details words with
  | case1 details =>
    cases hr
    exact h
  | case2 details text _ ih | case3 details text _ _ ih | case4 details text _ ih =>
    exact ih (h.withArgument text) hr
  | case5 details _ _ ih | case7 details _ ih => exact ih h hr
  | case6 | case9 | case11 => cases hr
  | case8 details name value _ ih | case10 details name value _ _ ih =>
    obtain ⟨next, hv, hnext⟩ := bind_eq_ok_iff.1 hr
    exact ih next (h.withValue hv) hnext

theorem HasOptions.isOption_value {details : Details} (h : details.HasOptions) (name : OptionName)
    {default : Json} (hd : default.IsOption) : (details.value name default).IsOption := by
  rw [value, Named.get?]
  cases hf : details.values.find? (·.1 = name) with
  | none => exact hd
  | some entry => exact h entry (List.mem_of_find?_eq_some hf)

end Details

theorem hasOptions_details {options : Named OptionName} {words : List Text}
    {found : Text × Details} (h : details options words = .ok found) : found.2.HasOptions := by
  obtain ⟨read, -, h⟩ := bind_eq_ok_iff.1 h
  obtain ⟨read, hr, h⟩ := bind_eq_ok_iff.1 h
  have hread : read.HasOptions := by
    apply Details.HasOptions.read _ hr
    intro entry hm
    cases hm
  cases ha : read.argument with
  | none => simp [ha, throw, throwThe, MonadExceptOf.throw] at h
  | some text =>
    simp only [ha, pure, Except.pure] at h
    cases h
    exact hread

theorem hasOptions_readCommand {name : Text} {words : List Text} {found : Command × Bool}
    (h : readCommand name words = .ok found) : found.1.HasOptions := by
  unfold readCommand at h
  split at h
  · obtain ⟨⟨destination, read⟩, hd, h⟩ := bind_eq_ok_iff.1 h
    have hread : read.HasOptions := hasOptions_details hd
    cases h
    exact .send destination (hread.isOption_value .code .absent)
      (hread.isOption_value .channel (.given _)) (hread.isOption_value .clientType .absent)
      (hread.isOption_value .languages (.given _))
  · split at h
    · obtain ⟨⟨id, read⟩, hd, h⟩ := bind_eq_ok_iff.1 h
      have hread : read.HasOptions := hasOptions_details hd
      cases h
      exact .approve id (hread.isOption_value .agent .absent)
        (hread.isOption_value .context (.given _))
    · cases h

theorem hasOptions_of_read {words : List Text} {arguments : Arguments}
    (h : Arguments.read words = .ok arguments) : arguments.command.HasOptions := by
  obtain ⟨read, -, h⟩ := bind_eq_ok_iff.1 h
  obtain ⟨⟨general, rest⟩, -, h⟩ := bind_eq_ok_iff.1 h
  cases rest with
  | nil => cases h
  | cons name others =>
    obtain ⟨⟨command, leftover⟩, hc, h⟩ := bind_eq_ok_iff.1 h
    dsimp only at h
    split at h
    · cases h
    · cases h
      exact hasOptions_readCommand hc

end CommandLine
end OneTimeCode
