import OneTimeCode.Proofs.Platform
import OneTimeCode.Proofs.Verification.Conservation
import OneTimeCode.Proofs.Verification.Origins

/-!
# Platforms that are counted

A run counts verifications under the labels of the agents that its confirmations give. So it counts
them under the platforms unless an agent spells its platform with a strange letter, and under one of
twelve labels whatever the agents are.
-/
namespace OneTimeCode
open Handling

namespace Metrics

theorem mem_keys_tally {metrics : Metrics} {counts : List Count} {key : CounterKey}
    (h : key ∈ (metrics.tally counts).counters.entries.map (·.1)) :
    (∃ count ∈ counts, count.key = key) ∨ key ∈ metrics.counters.entries.map (·.1) := by
  induction counts generalizing metrics with
  | nil => exact .inr h
  | cons count rest ih =>
    rcases ih h with ⟨other, hm, hk⟩ | hnow
    · exact .inl ⟨other, List.mem_cons_of_mem count hm, hk⟩
    · change key ∈ (metrics.count count.name count.tags).1.counters.entries.map (·.1) at hnow
      unfold Metrics.count at hnow
      split at hnow
      · exact .inr hnow
      · rcases Counters.mem_keys_addTo.1 hnow with rfl | hold
        · exact .inl ⟨count, List.mem_cons_self, rfl⟩
        · exact .inr hold

end Metrics

/-- A count of verifications is that of an approval, with what was wrong if it was refused. -/
theorem Purpose.approval_of_mem_counts {purpose : Purpose}
    {answer : Except TransportError Response} {count : Count} (h : count ∈ purpose.counts answer)
    (hn : count.name = verifications) : ∃ agent context, purpose = .approval agent context ∧
      (count.tags = approvalTags agent context ∨
        ∃ code status, count.tags = approvalTags agent context ++ refusalTags code status) := by
  cases answer with
  | error error =>
    rw [counts_error, List.mem_singleton] at h
    rw [h] at hn
    exact absurd hn names_ne.2.1.1
  | ok response =>
    by_cases ho : response.Overflows
    · rw [counts_of_overflows purpose ho] at h
      cases h
    · cases purpose with
      | code destination =>
        by_cases hs : response.Succeeds
        · rw [counts_code_of_succeeds destination hs] at h
          cases h
        · obtain ⟨status, code, -, -, hc⟩ := counts_code_of_fails destination hs ho
          rw [hc, List.mem_singleton] at h
          rw [h] at hn
          exact absurd hn names_ne.2.2.1
      | approval agent context =>
        refine ⟨agent, context, rfl, ?_⟩
        by_cases ha : response.Approves
        · rw [counts_approval_of_approves agent context ha, List.mem_singleton] at h
          exact .inl (congrArg Count.tags h)
        · obtain ⟨code, status, hc⟩ := counts_approval_of_not_approves agent context ha ho
          rw [hc, List.mem_singleton] at h
          exact .inr ⟨code, status, congrArg Count.tags h⟩

/-- However a verification is counted, the platform among its tags is the label of the agent. -/
theorem mem_approvalTags_iff {agent context : Json} {tags : List Tag}
    (h : tags = approvalTags agent context ∨
      ∃ code status, tags = approvalTags agent context ++ refusalTags code status)
    (platform : Text) : (("platform" : Text), platform) ∈ (CounterKey.ofTags verifications tags).tags ↔
      platform = Platform.label agent.text? := by
  have hcontext : ("platform" : Text) ≠ "context" := by decide
  have hcode : ("platform" : Text) ≠ "errorCode" := by decide
  have hstatus : ("platform" : Text) ≠ "statusCode" := by decide
  rcases h with rfl | ⟨code, status, rfl⟩
  · have hn : ((approvalTags agent context).map (·.1)).Nodup :=
      (by decide : (["context", "platform"] : List Text).Nodup)
    rw [CounterKey.mem_tags_ofTags hn]
    simp [approvalTags, hcontext]
  · have hn : ((approvalTags agent context ++ refusalTags code status).map (·.1)).Nodup :=
      (by decide : (["context", "platform", "errorCode", "statusCode"] : List Text).Nodup)
    rw [CounterKey.mem_tags_ofTags hn]
    simp [approvalTags, refusalTags, hcontext, hcode, hstatus]

namespace Client

/-- A run counts verifications for its confirmations, each under the label of its agent. -/
theorem platform_of_entry {client : Client} (hfresh : client.tickets = [])
    (hempty : client.metrics.counters = .empty) {actions : List Action} {entry : CounterKey × Int}
    (h : entry ∈ (client.acts actions).2.metrics.counters.entries)
    (hn : entry.1.name = verifications) :
    ∃ call, .call (.confirm call) ∈ actions ∧ ∀ platform,
      (("platform" : Text), platform) ∈ entry.1.tags ↔
        platform = Platform.label call.agent.text? := by
  rw [metrics_acts] at h
  rcases Metrics.mem_keys_tally (List.mem_map_of_mem h) with ⟨count, hm, hk⟩ | hold
  · obtain ⟨settlement, hs, hcount⟩ := List.mem_flatMap.1 hm
    have hname : count.name = verifications := by
      rw [← hn, ← hk]
      rfl
    obtain ⟨agent, context, hpurpose, htags⟩ := Purpose.approval_of_mem_counts hcount hname
    rcases origin_of_settlement hs with ⟨call, hcall, hissues⟩ | ⟨old, hm, -⟩
    · have hsame := purpose_of_compose_ok hissues
      rw [hpurpose] at hsame
      cases call with
      | send call => cases hsame
      | confirm call =>
        cases hsame
        refine ⟨call, hcall, fun platform => ?_⟩
        rw [← hk, Count.key, hname]
        exact mem_approvalTags_iff htags platform
    · rw [hfresh] at hm
      cases hm
  · rw [hempty] at hold
    cases hold

/-- Agents are counted under twelve labels and no others, and under that of a platform or as
unrecognized unless they spell their platform with a strange letter. Every counter of verifications
that a run of a new client leaves, whatever its sink, has the label of the agent of one of the run's
confirmations for its only platform. So it has one of the four exactly if that agent is not
strange. -/
theorem counts_platforms_unless_strange {settings : Settings} {supported : List Text}
    {session : Session} {sink : Sink} {client : Client}
    (hc : connect settings supported session sink = .ok client) (actions : List Action) :
    (∀ l, (∃ agent, Platform.label agent = l) ↔ l ∈ Platform.labels) ∧
    (∀ agent, Platform.label agent ∈ Platform.platforms ↔ ¬ Platform.IsStrange agent) ∧
    ∀ entry ∈ (client.acts actions).2.metrics.counters.entries, entry.1.name = verifications →
      ∃ call, .call (.confirm call) ∈ actions ∧
        (∀ platform, (("platform" : Text), platform) ∈ entry.1.tags ↔
          platform = Platform.label call.agent.text?) ∧
        ((∃ platform ∈ Platform.platforms, (("platform" : Text), platform) ∈ entry.1.tags) ↔
          ¬ Platform.IsStrange call.agent.text?) := by
  refine ⟨fun l => Platform.exists_label_eq_iff, Platform.label_mem_platforms_iff, ?_⟩
  intro entry hm hn
  obtain ⟨hmetrics, hfresh⟩ := metrics_of_connect hc
  obtain ⟨call, hcall, htags⟩ := platform_of_entry hfresh (by rw [hmetrics]) hm hn
  refine ⟨call, hcall, htags, ?_⟩
  rw [← Platform.label_mem_platforms_iff]
  simp only [htags, exists_eq_right]

theorem counts_platforms_of_ios :
    let client := scripted [.response ⟨some 200, "\x7b\"status\":\"approved\"\x7d",
      [("Content-Type", "application/json")]⟩]
    let actions : List Action :=
      [.call (.confirm ⟨.text "VE1", .text "Signal-iOS/5 iOS/17", .text "login"⟩)]
    connect .plain supportedLanguages client.session .working = .ok client ∧
      ∃ entry ∈ (client.acts actions).2.metrics.counters.entries, entry.1.name = verifications ∧
        ∃ platform ∈ Platform.platforms, (("platform" : Text), platform) ∈ entry.1.tags := by
  intro client actions
  have hconnect : connect .plain supportedLanguages client.session .working = .ok client :=
    connect_plain _
  obtain ⟨-, hplain, hcounted⟩ := counts_platforms_unless_strange hconnect actions
  have hentry : ∃ entry ∈ (client.acts actions).2.metrics.counters.entries,
      entry.1.name = verifications := by decide +kernel
  obtain ⟨entry, hm, hn⟩ := hentry
  obtain ⟨call, hcall, -, hplatform⟩ := hcounted entry hm hn
  have hlabel : Platform.label call.agent.text? ∈ Platform.platforms := by
    cases List.mem_singleton.1 hcall
    decide
  exact ⟨hconnect, entry, hm, hn, hplatform.2 ((hplain _).1 hlabel)⟩

/-- A small `i` without its dot is a case of `i`, and is left as it is in lower case. So an approval
is counted under a platform that there is not. -/
theorem counts_dotless_platform :
    let strange : Text := "\u0131os"
    let agent : Text := "Signal-\u0131OS/5"
    let client := scripted [.response ⟨some 200, "\x7b\"status\":\"approved\"\x7d",
      [("Content-Type", "application/json")]⟩]
    let actions : List Action := [.call (.confirm ⟨.text "VE1", .text agent, .text "login"⟩)]
    Platform.label (some agent) = strange ∧ strange ∉ Platform.platforms ∧
      ∃ entry ∈ (client.acts actions).2.metrics.counters.entries,
        entry.1.name = verifications ∧ (("platform" : Text), strange) ∈ entry.1.tags := by
  intro strange agent client actions
  have hentry : ∃ entry ∈ (client.acts actions).2.metrics.counters.entries,
      entry.1.name = verifications := by decide +kernel
  obtain ⟨entry, hm, hn⟩ := hentry
  obtain ⟨call, hcall, htags⟩ := platform_of_entry rfl rfl hm hn
  have hlabel : Platform.label (some agent) = strange := by decide
  cases List.mem_singleton.1 hcall
  exact ⟨hlabel, by decide, entry, hm, hn, (htags strange).2 hlabel.symm⟩

end Client
end OneTimeCode
