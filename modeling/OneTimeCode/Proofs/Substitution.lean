import OneTimeCode.Proofs.Language.Lookup
import OneTimeCode.Proofs.Offline
import OneTimeCode.Proofs.Verification.Hash
import OneTimeCode.Proofs.Verification.Refusals

/-!
# The offline provider in the place of a client

Both choose the same language for a request. They differ in what they refuse: the offline provider
answers every call made of texts, whatever the channel and the identifier, and takes an identifier
as it is. A client refuses unknown channels and blank identifiers, and goes by the trimmed
identifier.
-/
namespace OneTimeCode
open Text

/-! ## Languages -/

theorem ne_nil_of_mem_supportedLanguages {tag : Text} (h : tag ∈ supportedLanguages) :
    tag ≠ [] := by
  have hall : ∀ tag ∈ supportedLanguages, tag ≠ [] := by decide
  exact hall tag h

theorem Client.answer_bestLocale {client : Client} (h : client.supported = supportedLanguages)
    (ranges : List RangeItem) : (client.bestLocale ranges).answer = Receipt.localeFor ranges := by
  rw [bestLocale, Receipt.localeFor, h]
  cases Lookup.best ranges supportedLanguages <;> rfl

theorem Receipt.localeFor_ne_nil {ranges : List RangeItem} {tag : Text}
    (h : localeFor ranges = some tag) : tag ≠ [] := by
  unfold localeFor at h
  cases hb : Lookup.best ranges supportedLanguages with
  | error e =>
    rw [hb] at h
    cases h
  | ok locale =>
    rw [hb] at h
    cases h
    exact ne_nil_of_mem_supportedLanguages
      (Lookup.mem_of_best Lookup.nodup_lower_supportedLanguages hb)

namespace CodeOrder

/-- The form of an order shows its language, if it has one. -/
theorem get?_locale {settings : Settings} {order : CodeOrder} {fields : Named Json}
    (hf : order.fields settings = .ok fields) {locale : Option Text}
    (hl : order.locale = (locale.map Json.text).getD .null) (hn : ∀ tag ∈ locale, tag ≠ []) :
    Named.get? ("Locale" : Text) (fields.map fun field => (field.1, field.2.display)) = locale := by
  have ht : ("To" : Text) ≠ "Locale" := by decide
  have hc : ("CustomCode" : Text) ≠ "Locale" := by decide
  have hd : ("Channel" : Text) ≠ "Locale" := by decide
  have hname : ("CustomFriendlyName" : Text) ≠ "Locale" := by decide
  have ha : ("AppHash" : Text) ≠ "Locale" := by decide
  obtain ⟨reads, -, rfl⟩ := fields_eq_ok hf
  have hfield : order.localeField =
      (locale.map fun tag => (("Locale" : Text), Json.text tag)).toList := by
    rw [localeField, hl]
    cases locale with
    | none => rfl
    | some tag => simp [hn tag rfl]
  rw [hfield]
  cases locale with
  | none => cases reads <;> simp [plainFields, Named.get?, ht, hc, hd, hname, ha]
  | some tag => simp [plainFields, Named.get?, ht, hc, hd, hname]

end CodeOrder

namespace Client

/-- Every post of a request for a code shows the language that an offline provider notes. -/
theorem locale_of_posts {client : Client} (hs : client.supported = supportedLanguages)
    {call : SendCall} {made : Post} (h : client.Posts (.send call) made) :
    ∃ fields, Form.decode? made.body = some fields ∧
      Named.get? ("Locale" : Text) fields = Receipt.localeFor call.ranges := by
  obtain ⟨letter, purpose, hc, policy, hp⟩ := h
  obtain ⟨-, order, fields, rfl, hf, -, -, hl⟩ := compose_send_eq_ok hc
  rw [answer_bestLocale hs] at hl
  exact ⟨_, Form.decode?_encode (Session.post_eq_ok hp).2,
    CodeOrder.get?_locale hf hl fun _ => Receipt.localeFor_ne_nil⟩

/-! ## Refusals -/

/-- A client goes by the trimmed identifier. -/
theorem call_confirm_of_trim_eq (client : Client) {id other : Text} (h : trim id = trim other)
    (agent : Option Text) (context : Text) :
    client.call (.confirm (.ofTexts id agent context)) =
      client.call (.confirm (.ofTexts other agent context)) := by
  have hid : (ConfirmCall.ofTexts id agent context).verificationId =
      (ConfirmCall.ofTexts other agent context).verificationId := by
    simp only [ConfirmCall.verificationId, ConfirmCall.ofTexts, Json.textOrEmpty_text, h]
  have hsame : client.compose (.confirm (.ofTexts id agent context)) =
      client.compose (.confirm (.ofTexts other agent context)) := by
    simp only [compose, hid]
    rfl
  unfold Client.call
  rw [hsame]

end Client

/-- A client for the supported languages against an offline provider. Of the calls made of texts the
offline provider answers every one. The client refuses a request exactly for an unknown channel, so
never if the channel has an entry of its own, and a confirmation for a blank identifier; any other
identifier that can be encoded it takes on. The language that the offline provider notes is the one
that the posts of the client show. The client goes by the trimmed identifier, the offline provider
by the identifier as it is. -/
theorem offline_in_place_of_client {settings : Settings} {session : Session} {sink : Sink}
    {client : Client} (h : Client.connect settings supportedLanguages session sink = .ok client)
    (provider : Offline) :
    (∀ channel destination code clientType ranges,
      let call := SendCall.ofTexts channel destination code clientType ranges
      (∃ id, (provider.call (.send call)).1 = .ok (.sent id)) ∧
      (∀ error, (client.call (.send call)).1.answer = .error error ↔
        ¬ Channel.IsKnown channel ∧ error = .unsupportedChannel (.text channel)) ∧
      ∃ locale, (provider.call (.send call)).2.2.receipts =
          provider.receipts ++ [.code call locale] ∧
        ∀ made, client.Posts (.send call) made → ∃ fields,
          Form.decode? made.body = some fields ∧
            Named.get? ("Locale" : Text) fields = locale) ∧
    (∀ id agent context,
      let call := ConfirmCall.ofTexts id agent context
      (provider.call (.confirm call)).1 = .ok (.confirmed (decide (id ∈ provider.pending))) ∧
      (provider.call (.confirm call)).2.2.pending = provider.pending.erase id ∧
      (trim id = [] → (client.call (.confirm call)).1.answer = .error .noVerificationId) ∧
      (trim id ≠ [] → Utf8.IsEncodable (trim id) →
        ∃ promise, (client.call (.confirm call)).1.answer = .ok promise) ∧
      ∀ other, trim id = trim other →
        client.call (.confirm call) = client.call (.confirm (.ofTexts other agent context))) ∧
    ∀ actions, ∀ made ∈ (client.acts actions).1.flatMap (·.posts),
      ∃ call, .call call ∈ actions ∧ client.Posts call made := by
  obtain ⟨authorization, -, hclient⟩ := Client.eq_of_connect h
  have hs : client.supported = supportedLanguages := by rw [hclient]
  have ht : client.tickets = [] := by rw [hclient]
  refine ⟨?_, ?_, ?_⟩
  · intro channel destination code clientType ranges call
    refine ⟨provider.answer_send_text rfl, fun _ => Client.refuses_send_iff,
      Receipt.localeFor ranges, provider.receipts_call_send call,
      fun made hm => Client.locale_of_posts hs hm⟩
  · intro id agent context call
    have hcall := provider.call_confirm call
    rw [show call.id = .text id from rfl, provider.confirm_text] at hcall
    refine ⟨?_, ?_, ?_, ?_, ?_⟩
    · rw [hcall]
    · rw [hcall]
      rfl
    · exact fun hb => Client.refuses_confirm_iff.2 (.inl ⟨hb, rfl⟩)
    · intro hb he
      cases ha : (client.call (.confirm call)).1.answer with
      | ok promise => exact ⟨promise, rfl⟩
      | error error =>
        obtain ⟨segment, hsegment⟩ := Percent.encode_of_isEncodable he
        rcases Client.refuses_confirm_iff.1 ha with ⟨hblank, -⟩ | ⟨fault, hf, -⟩
        · exact absurd hblank hb
        · rw [hsegment] at hf
          cases hf
    · exact fun other ho => client.call_confirm_of_trim_eq ho agent context
  · intro actions made hm
    obtain ⟨call, letter, purpose, hcall, hc, hp⟩ := Client.origin_of_post ht hm
    exact ⟨call, hcall, letter, purpose, hc, hp⟩

theorem offline_in_place_of_plain :
    let client := Client.scripted [.response ⟨some 201, [], []⟩]
    let call := SendCall.ofTexts "voice" "+14155551234" "123456" none [.plain (.text "de-AT")]
    Client.connect .plain supportedLanguages client.session .working = .ok client ∧
      ∃ locale, (({} : Offline).call (.send call)).2.2.receipts = [.code call locale] ∧
        ∀ made, client.Posts (.send call) made → ∃ fields,
          Form.decode? made.body = some fields ∧
            Named.get? ("Locale" : Text) fields = locale := by
  intro client call
  have hboth := offline_in_place_of_client
    (Client.connect_plain [.response ⟨some 201, [], []⟩]) {}
  exact ⟨Client.connect_plain _, (hboth.1 _ _ _ _ _).2.2⟩

/-- An offline provider answers an unknown channel and a blank identifier that a client refuses, and
does not approve a pending identifier behind a space, which a client trims. -/
theorem offline_answers_refused_calls :
    let client := Client.scripted []
    let provider : Offline := { pending := ["VE1"] }
    let fax : Call := .send (.ofTexts "fax" "+1" "1" none [])
    let confirm (id : Text) : Call := .confirm (.ofTexts id none "registration")
    (client.call fax).1.answer = .error (.unsupportedChannel (.text "fax")) ∧
      (provider.call fax).1 = .ok (.sent (some "VE00000000000000000000000000000001")) ∧
      (client.call (confirm " ")).1.answer = .error .noVerificationId ∧
      (provider.call (confirm " ")).1 = .ok (.confirmed false) ∧
      client.call (confirm " VE1") = client.call (confirm "VE1") ∧
      (provider.call (confirm " VE1")).1 = .ok (.confirmed false) ∧
      (provider.call (confirm "VE1")).1 = .ok (.confirmed true) := by
  intro client provider fax confirm
  have hfax : ¬ Channel.IsKnown "fax" := by
    rw [Channel.isKnown_iff]
    decide
  refine ⟨Client.refuses_send_iff.2 ⟨hfax, rfl⟩, by decide +kernel,
    Client.refuses_confirm_iff.2 (.inl ⟨by decide, rfl⟩), by decide +kernel,
    client.call_confirm_of_trim_eq (by decide) none "registration", by decide +kernel,
    by decide +kernel⟩

end OneTimeCode
