import OneTimeCode.Proofs.Encoding.Base64
import OneTimeCode.Proofs.Settings
import OneTimeCode.Proofs.Text.Pieces
import OneTimeCode.Proofs.Text.Trimming
import OneTimeCode.Proofs.Transport.Retrying
import OneTimeCode.Proofs.Verification.Attempts

/-!
# Credentials on the wire

Every post of a client carries its authorization. A receiver decodes it to the account, a colon and
the token, and cuts that text at its first colon. So it reads the account and the token that were
configured exactly if the account holds no colon.
-/
namespace OneTimeCode
open Text

namespace Settings

def pair (s : Settings) : Text := s.account ++ .char ':' :: s.token

theorem authorization_eq_ok_iff {s : Settings} {authorization : Text} :
    s.authorization = .ok authorization ↔ ∃ bytes, Utf8.encode s.pair = .ok bytes ∧
      authorization = "Basic " ++ Base64.encode bytes := by
  have hpair : s.account ++ ":" ++ s.token = s.pair := List.append_assoc ..
  rw [Settings.authorization, hpair, map_eq_ok_iff]

theorem isEncodable_pair_iff {s : Settings} :
    Utf8.IsEncodable s.pair ↔ Utf8.IsEncodable s.account ∧ Utf8.IsEncodable s.token := by
  have hcolon : (CodePoint.char ':').isHalf = false := rfl
  simp only [pair, Utf8.IsEncodable, List.forall_mem_append, List.forall_mem_cons, hcolon, true_and]

end Settings

namespace Credentials

def scheme : Text := "Basic "

def text? (authorization : Text) : Option Text :=
  if scheme.isPrefixOf authorization then
    (Base64.decode? (authorization.drop scheme.length)).bind Utf8.decode?
  else none

/-- The account and the token that are read out of an authorization: what stands before and after
the first colon. -/
def read? (authorization : Text) : Option (Text × Text) :=
  (text? authorization).bind fun pair =>
    if .char ':' ∈ pair then some (before ':' pair, after ':' pair) else none

theorem text?_of_authorization {s : Settings} {authorization : Text}
    (h : s.authorization = .ok authorization) : text? authorization = some s.pair := by
  obtain ⟨bytes, hb, rfl⟩ := Settings.authorization_eq_ok_iff.1 h
  have hprefix : scheme.isPrefixOf ("Basic " ++ Base64.encode bytes) = true :=
    List.isPrefixOf_iff_prefix.2 (List.prefix_append ..)
  have hdrop : (("Basic " : Text) ++ Base64.encode bytes).drop scheme.length =
      Base64.encode bytes := List.drop_left
  rw [text?, if_pos hprefix, hdrop, Base64.decode?_encode (Utf8.encode_lt hb), Option.bind_some,
    Utf8.decode?_encode hb]

theorem colon_mem_pair (s : Settings) : .char ':' ∈ s.pair :=
  List.mem_append_right _ List.mem_cons_self

theorem read?_of_authorization {s : Settings} {authorization : Text}
    (h : s.authorization = .ok authorization) :
    read? authorization = some (before ':' s.pair, after ':' s.pair) := by
  rw [read?, text?_of_authorization h, Option.bind_some, if_pos (colon_mem_pair s)]

/-- The first colon is the one between the account and the token unless the account holds one. -/
theorem parts_eq_iff (s : Settings) :
    (before ':' s.pair, after ':' s.pair) = (s.account, s.token) ↔ .char ':' ∉ s.account := by
  constructor
  · intro h
    rw [← (Prod.mk.inj h).1]
    exact not_mem_before ':' s.pair
  · intro h
    rw [Settings.pair, before_append h, after_append h]

theorem authorization_eq_iff {s others : Settings} {authorization : Text}
    (h : s.authorization = .ok authorization) :
    others.authorization = .ok authorization ↔ others.pair = s.pair := by
  constructor
  · intro ho
    exact Option.some.inj ((text?_of_authorization ho).symm.trans (text?_of_authorization h))
  · intro he
    rw [Settings.authorization_eq_ok_iff, he]
    exact Settings.authorization_eq_ok_iff.1 h

end Credentials

namespace Settings

/-- The pair can also be cut at another colon into two texts that are accepted. -/
def IsAmbiguous (s : Settings) : Prop :=
  ∃ account token, s.pair = account ++ .char ':' :: token ∧ account ≠ s.account ∧
    (trim account = account ∧ account ≠ []) ∧ trim token = token ∧ token ≠ []

theorem ReadFrom.replaced {settings : Settings} {draft : Draft} (h : settings.ReadFrom draft)
    {account token : Text} (ha : trim account = account ∧ account ≠ [])
    (ht : trim token = token ∧ token ≠ []) :
    { settings with account := account, token := token }.ReadFrom
      { draft with account := .text account, token := .text token } := by
  have hread {identifier : Identifier} {id : Text} (hi : trim id = id ∧ id ≠ []) :
      readIdentifier identifier (.text id) = .ok id :=
    readIdentifier_eq_ok_iff.2 ⟨by rw [Json.textOrEmpty_text, hi.1], hi.2⟩
  exact ⟨hread ha, hread ht, h.service, h.origin, h.timeout, h.retries, h.workers, h.appHash,
    h.friendlyName⟩

theorem ReadFrom.isAmbiguous_iff {settings : Settings} {draft : Draft} (h : settings.ReadFrom draft) :
    settings.IsAmbiguous ↔ ∃ (other : Draft) (others : Settings), ofDraft other = .ok others ∧
      others.pair = settings.pair ∧ others.account ≠ settings.account := by
  constructor
  · rintro ⟨account, token, hpair, hne, ha, ht⟩
    exact ⟨_, _, ofDraft_eq_ok_iff.2 (h.replaced ha ht), hpair.symm, hne⟩
  · rintro ⟨other, others, ho, hpair, hne⟩
    have hread := ofDraft_eq_ok_iff.1 ho
    obtain ⟨ha, haccount⟩ := readIdentifier_eq_ok_iff.1 hread.account
    obtain ⟨ht, htoken⟩ := readIdentifier_eq_ok_iff.1 hread.token
    refine ⟨others.account, others.token, hpair.symm, hne, ⟨?_, haccount⟩, ?_, htoken⟩
    · rw [ha, trim_trim]
    · rw [ht, trim_trim]

end Settings

namespace Client

theorem headers_of_compose {client : Client} {call : Call} {letter : Letter} {purpose : Purpose}
    (h : (client.compose call).answer = .ok (letter, purpose)) :
    letter.headers = [(("Authorization" : Text), Json.text client.authorization)] := by
  cases call with
  | send call =>
    obtain ⟨-, order, fields, rfl, -⟩ := compose_send_eq_ok h
    rfl
  | confirm call =>
    obtain ⟨-, id, url, -, -, rfl⟩ := compose_confirm_eq_ok h
    rfl

theorem authorization_of_post {client : Client} (hfresh : client.tickets = [])
    {actions : List Action} {made : Post}
    (hm : made ∈ (client.acts actions).1.flatMap (·.posts)) :
    Named.get? ("Authorization" : Text) made.headers = some (Json.text client.authorization) := by
  obtain ⟨call, letter, purpose, -, hc, policy, hp⟩ := origin_of_post hfresh hm
  rw [(Policy.carries_of_post hp).headers, headers_of_compose hc]
  rfl

theorem exists_connect_iff {settings : Settings} {supported : List Text} {session : Session}
    {sink : Sink} : (∃ client, connect settings supported session sink = .ok client) ↔
      Utf8.IsEncodable settings.account ∧ Utf8.IsEncodable settings.token := by
  rw [← Settings.isEncodable_pair_iff]
  simp only [connect, map_eq_ok_iff, Settings.authorization_eq_ok_iff, Utf8.encode_eq_ok_iff]
  constructor
  · rintro ⟨client, authorization, ⟨bytes, ⟨he, -⟩, -⟩, -⟩
    exact he
  · intro he
    exact ⟨_, _, ⟨_, ⟨he, rfl⟩, rfl⟩, rfl⟩

/-- A client of accepted settings exists unless half a character stands in the account or the token.
Every post shows its authorization, out of which the account and the token are read exactly if no
colon stands in the account. Two clients whose accounts have no colon show the same authorization
only for the same account and token. In general the authorization does not tell the settings from
all other accepted ones exactly if the account and the token can be cut at another colon. -/
theorem reads_credentials_iff {draft : Draft} {settings : Settings}
    (hd : Settings.ofDraft draft = .ok settings) (supported : List Text) (session : Session)
    (sink : Sink) :
    ((∃ client, connect settings supported session sink = .ok client) ↔
      Utf8.IsEncodable settings.account ∧ Utf8.IsEncodable settings.token) ∧
    ∀ client, connect settings supported session sink = .ok client →
      (∀ actions, ∀ made ∈ (client.acts actions).1.flatMap (·.posts),
        Named.get? ("Authorization" : Text) made.headers =
          some (Json.text client.authorization)) ∧
      Credentials.read? client.authorization =
        some (before ':' settings.pair, after ':' settings.pair) ∧
      (Credentials.read? client.authorization = some (settings.account, settings.token) ↔
        .char ':' ∉ settings.account) ∧
      (∀ others : Settings, others.authorization = .ok client.authorization →
        .char ':' ∉ settings.account → .char ':' ∉ others.account →
          others.account = settings.account ∧ others.token = settings.token) ∧
      (settings.IsAmbiguous ↔ ∃ (other : Draft) (others : Settings),
        Settings.ofDraft other = .ok others ∧
        others.authorization = .ok client.authorization ∧ others.account ≠ settings.account) := by
  refine ⟨exists_connect_iff, fun client hc => ?_⟩
  obtain ⟨authorization, ha, rfl⟩ := eq_of_connect hc
  have hread := Credentials.read?_of_authorization ha
  refine ⟨fun actions made hm => authorization_of_post rfl hm, hread, ?_, ?_, ?_⟩
  · rw [hread, Option.some.injEq]
    exact Credentials.parts_eq_iff settings
  · intro others ho hcolon hcolon'
    have hpair := (Credentials.authorization_eq_iff ha).1 ho
    have hsame := (Credentials.parts_eq_iff others).2 hcolon'
    rw [hpair, (Credentials.parts_eq_iff settings).2 hcolon] at hsame
    exact ⟨(Prod.mk.inj hsame).1.symm, (Prod.mk.inj hsame).2.symm⟩
  · rw [(Settings.ofDraft_eq_ok_iff.1 hd).isAmbiguous_iff]
    simp only [Credentials.authorization_eq_iff ha]

theorem reads_credentials_of_plain :
    let client := scripted []
    Settings.ofDraft .plain = .ok .plain ∧
      connect .plain supportedLanguages client.session .working = .ok client ∧
      Credentials.read? client.authorization = some (("AC1" : Text), ("secret" : Text)) := by
  intro client
  have hconnect := connect_plain []
  obtain ⟨-, hreads⟩ :=
    reads_credentials_iff Settings.ofDraft_plain supportedLanguages client.session .working
  obtain ⟨-, -, hexact, -⟩ := hreads client hconnect
  exact ⟨Settings.ofDraft_plain, hconnect, hexact.2 (by decide)⟩

/-- Two accepted accounts, one of them with a colon, show the same authorization with tokens that
fit, and the one without a colon is read out of it. -/
theorem colon_in_account_misread :
    ∃ settings others authorization,
      Settings.ofDraft { Draft.plain with account := .text "a:b", token := .text "c" } =
        .ok settings ∧
      Settings.ofDraft { Draft.plain with account := .text "a", token := .text "b:c" } =
        .ok others ∧
      settings.account = "a:b" ∧ others.account = "a" ∧
      settings.authorization = .ok authorization ∧ others.authorization = .ok authorization ∧
      Credentials.read? authorization = some (("a" : Text), ("b:c" : Text)) := by
  let settings : Settings := { Settings.plain with account := "a:b", token := "c" }
  let others : Settings := { Settings.plain with account := "a", token := "b:c" }
  have hencodable : Utf8.IsEncodable settings.account ∧ Utf8.IsEncodable settings.token := by decide
  obtain ⟨client, hclient⟩ := (@exists_connect_iff settings [] (scripted []).session .working).2
    hencodable
  obtain ⟨authorization, ha, -⟩ := eq_of_connect hclient
  have hsame : others.authorization = .ok authorization :=
    (Credentials.authorization_eq_iff ha).2 rfl
  refine ⟨settings, others, authorization, rfl, rfl, rfl, rfl, ha, hsame, ?_⟩
  rw [Credentials.read?_of_authorization hsame]
  exact congrArg some ((Credentials.parts_eq_iff others).2 (by decide))

end Client
end OneTimeCode
