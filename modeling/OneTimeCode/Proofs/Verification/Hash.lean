import OneTimeCode.Proofs.Verification.Course
import OneTimeCode.Proofs.Verification.Origins

/-!
# Which forms carry the hash of the app

An app on the client reads a code out of a text message that carries the app's hash. Whether a form
has the hash depends on the type of the client alone. The entries for one channel give no type to
voice calls; a caller who names the channel can give one, and then the hash goes out on a voice
call.
-/
namespace OneTimeCode

/-- A text begins with the mark exactly if the value is a text that does. -/
theorem readsMessages_iff {clientType : Json} {reads : Bool}
    (h : readsMessages clientType = .ok reads) :
    reads = true ↔ ∃ t, clientType = .text t ∧ androidMark <+: t := by
  have hno (hn : clientType.text? = none) : reads = false := by
    simp only [readsMessages, Json.requireText, hn] at h
    split at h <;> cases h
    rfl
  cases clientType with
  | text t =>
    rw [readsMessages, Json.requireText_text] at h
    cases h
    simp
  | _ => simp [hno rfl]

def Form.Mentions (fields : Fields) (name : Text) : Prop := ∃ value, (name, value) ∈ fields

namespace Call

def channel? : Call → Option Channel
  | .send call => Channel.ofJson? call.channel
  | .confirm _ => none

/-- The call is for a client whose app reads messages. -/
def IsForAndroid : Call → Prop
  | .send call => ∃ t, call.clientType = .text t ∧ androidMark <+: t
  | .confirm _ => False

/-- The call is made by an entry for one channel, or it is a confirmation. -/
def NamesNoChannel (call : Call) : Prop :=
  (∃ destination clientType code ranges, call = .sms destination clientType code ranges) ∨
    (∃ destination code ranges, call = .voice destination code ranges) ∨
    ∃ confirmation, call = .confirm confirmation

theorem NamesNoChannel.not_voice_for_android {call : Call} (h : call.NamesNoChannel) :
    ¬ (call.channel? = some .voice ∧ call.IsForAndroid) := by
  rintro ⟨hc, ha⟩
  rcases h with ⟨destination, clientType, code, ranges, rfl⟩ | ⟨destination, code, ranges, rfl⟩ |
    ⟨confirmation, rfl⟩
  · simp [channel?, sms, Channel.ofJson?_name] at hc
  · obtain ⟨t, ht, -⟩ := ha
    cases ht
  · exact ha

/-- The form carries the hash of the app exactly if it is for a text message and for a client whose
app reads it. -/
def KeepsHashRule (call : Call) (fields : Form.Fields) : Prop :=
  Form.Mentions fields "AppHash" ↔
    (("Channel" : Text), Channel.sms.wireName) ∈ fields ∧ call.IsForAndroid

/-- What the form of a call says about its channel and the hash of the app. -/
structure Shows (call : Call) (fields : Form.Fields) : Prop where
  channel : ∀ channel : Channel,
    (("Channel" : Text), channel.wireName) ∈ fields ↔ call.channel? = some channel
  hash : Form.Mentions fields "AppHash" ↔ call.IsForAndroid
  known : call.IsForAndroid → ∃ channel, call.channel? = some channel

/-- Voice calls for a client whose app reads messages break the hash rule, and no others do. -/
theorem Shows.keepsHashRule_iff {call : Call} {fields : Form.Fields} (h : call.Shows fields) :
    call.KeepsHashRule fields ↔ ¬ (call.channel? = some .voice ∧ call.IsForAndroid) := by
  rw [KeepsHashRule, h.hash, h.channel]
  constructor
  · rintro hrule ⟨hv, ha⟩
    rw [(hrule.1 ha).1] at hv
    cases hv
  · intro hno
    refine ⟨fun ha => ⟨?_, ha⟩, And.right⟩
    obtain ⟨channel, hc⟩ := h.known ha
    cases channel with
    | sms => exact hc
    | voice => exact absurd ⟨hc, ha⟩ hno

end Call

namespace CodeOrder

/-- The hash comes after all other fields, and only for the right types. -/
theorem fields_eq_ok {settings : Settings} {order : CodeOrder} {fields : Named Json}
    (h : order.fields settings = .ok fields) :
    ∃ reads, readsMessages order.clientType = .ok reads ∧ fields =
      order.plainFields settings ++ order.localeField ++
        if reads then [(("AppHash" : Text), settings.appHash)] else [] := by
  rw [CodeOrder.fields, hashField] at h
  cases hr : readsMessages order.clientType with
  | error e =>
    rw [hr] at h
    cases h
  | ok reads =>
    rw [hr] at h
    cases h
    exact ⟨reads, rfl, rfl⟩

theorem shown_channel_iff {settings : Settings} {order : CodeOrder} {fields : Named Json}
    (h : order.fields settings = .ok fields) (value : Text) :
    (("Channel" : Text), value) ∈ fields.map (fun field => (field.1, field.2.display)) ↔
      value = order.channel.wireName := by
  have hl : ("Channel" : Text) ≠ "Locale" := by decide
  have ht : ("Channel" : Text) ≠ "To" := by decide
  have hc : ("Channel" : Text) ≠ "CustomCode" := by decide
  have hn : ("Channel" : Text) ≠ "CustomFriendlyName" := by decide
  have ha : ("Channel" : Text) ≠ "AppHash" := by decide
  obtain ⟨reads, -, rfl⟩ := fields_eq_ok h
  rw [localeField]
  cases reads <;> cases order.locale.isMissing <;> simp [plainFields, ht, hc, hn, hl, ha]

theorem shown_hash_iff {settings : Settings} {order : CodeOrder} {fields : Named Json}
    (h : order.fields settings = .ok fields) :
    Form.Mentions (fields.map fun field => (field.1, field.2.display)) "AppHash" ↔
      ∃ t, order.clientType = .text t ∧ androidMark <+: t := by
  have hl : ("AppHash" : Text) ≠ "Locale" := by decide
  have ht : ("AppHash" : Text) ≠ "To" := by decide
  have hc : ("AppHash" : Text) ≠ "CustomCode" := by decide
  have hn : ("AppHash" : Text) ≠ "CustomFriendlyName" := by decide
  have ha : ("AppHash" : Text) ≠ "Channel" := by decide
  obtain ⟨reads, hr, rfl⟩ := fields_eq_ok h
  rw [← readsMessages_iff hr, Form.Mentions, localeField]
  cases reads <;> cases order.locale.isMissing <;> simp [plainFields, ht, hc, hn, hl, ha]

end CodeOrder

namespace Client

theorem shows_of_compose {client : Client} {call : Call} {letter : Letter} {purpose : Purpose}
    (h : (client.compose call).answer = .ok (letter, purpose)) : call.Shows letter.form := by
  cases call with
  | send call =>
    obtain ⟨-, order, fields, rfl, hf, hc, ht, -⟩ := compose_send_eq_ok h
    refine ⟨fun channel => ?_, ?_, fun _ => ⟨_, hc⟩⟩
    · rw [Letter.form, Letter.authorized, CodeOrder.shown_channel_iff hf, Call.channel?, hc]
      cases channel <;> cases order.channel <;> decide
    · rw [Letter.form, Letter.authorized, CodeOrder.shown_hash_iff hf, ht]
      rfl
  | confirm call =>
    have hc : ("Channel" : Text) ≠ "Status" := by decide
    have ha : ("AppHash" : Text) ≠ "Status" := by decide
    have hform : letter.form = [(("Status" : Text), Reply.approved)] := by
      obtain ⟨-, id, url, -, -, rfl⟩ := compose_confirm_eq_ok h
      rfl
    rw [hform]
    refine ⟨fun channel => ?_, ?_, False.elim⟩
    · simp [Call.channel?, hc]
    · simp [Form.Mentions, Call.IsForAndroid, ha]

def Posts (client : Client) (call : Call) (made : Post) : Prop :=
  ∃ letter purpose, (client.compose call).answer = .ok (letter, purpose) ∧
    ∃ policy : Policy, policy.post letter = .ok made

theorem shows_of_posts {client : Client} {call : Call} {made : Post} (h : client.Posts call made) :
    ∃ fields, Form.decode? made.body = some fields ∧ call.Shows fields := by
  obtain ⟨letter, purpose, hc, policy, hp⟩ := h
  exact ⟨letter.form, Form.decode?_encode (Session.post_eq_ok hp).2, shows_of_compose hc⟩

/-- Every post of a run belongs to one of its calls. Its form carries the hash of the app exactly if
the call is for a client whose app reads messages. This is the hash rule, unless the caller named
the channel and asked for a voice call to such a client. -/
theorem keepsHashRule_iff_not_voice {client : Client} (hfresh : client.tickets = [])
    (actions : List Action) :
    (∀ made ∈ (client.acts actions).1.flatMap (·.posts),
      ∃ call, .call call ∈ actions ∧ client.Posts call made) ∧
    ∀ call made, client.Posts call made → ∃ fields, Form.decode? made.body = some fields ∧
      (Form.Mentions fields "AppHash" ↔ call.IsForAndroid) ∧
      ((("Channel" : Text), Channel.voice.wireName) ∈ fields ↔ call.channel? = some .voice) ∧
      (call.KeepsHashRule fields ↔ ¬ (call.channel? = some .voice ∧ call.IsForAndroid)) ∧
      (call.NamesNoChannel → call.KeepsHashRule fields) := by
  constructor
  · intro made hm
    obtain ⟨call, letter, purpose, hcall, hc, hp⟩ := origin_of_post hfresh hm
    exact ⟨call, hcall, letter, purpose, hc, hp⟩
  · intro call made hm
    obtain ⟨fields, hd, hs⟩ := shows_of_posts hm
    refine ⟨fields, hd, hs.hash, hs.channel .voice, hs.keepsHashRule_iff, fun hn => ?_⟩
    exact hs.keepsHashRule_iff.2 hn.not_voice_for_android

theorem keepsHashRule_sms :
    let client := scripted [.response ⟨some 201, [], []⟩]
    let call : Call := .sms (.text "+14155551234") (.text "android") (.text "123456") []
    client.tickets = [] ∧ ∃ made ∈ (client.acts [.call call]).1.flatMap (·.posts), ∃ fields,
      Form.decode? made.body = some fields ∧ call.KeepsHashRule fields := by
  intro client call
  have hrule := @keepsHashRule_iff_not_voice client rfl [.call call]
  have hposted : ((client.acts [.call call]).1.flatMap (·.posts)).length = 1 := by decide +kernel
  obtain ⟨made, hmade⟩ := List.length_eq_one_iff.1 hposted
  have hm : made ∈ (client.acts [.call call]).1.flatMap (·.posts) := by simp [hmade]
  obtain ⟨found, hfound, hp⟩ := hrule.1 made hm
  cases List.mem_singleton.1 hfound
  obtain ⟨fields, hd, -, -, -, hkeep⟩ := hrule.2 call made hp
  exact ⟨rfl, made, hm, fields, hd, hkeep (.inl ⟨_, _, _, _, rfl⟩)⟩

/-- A voice call for such a client, asked for by the name of its channel, carries the hash. -/
theorem hash_on_voice_call :
    let client := scripted [.response ⟨some 201, [], []⟩]
    let call : SendCall :=
      ⟨.text "voice", .text "+14155551234", .text "123456", .text "android", []⟩
    ((client.acts [.call (.send call)]).1.flatMap (·.posts)).map (fun made =>
        Form.decode? made.body) =
      ([some [("To", "+14155551234"), ("CustomCode", "123456"), ("Channel", "call"),
        ("CustomFriendlyName", "Example Messenger"), ("AppHash", "hash")]] :
          List (Option Form.Fields)) := by
  decide +kernel

end Client
end OneTimeCode
