import OneTimeCode.Language.Lookup
import OneTimeCode.Language.Supported
import OneTimeCode.Text.Hex
import OneTimeCode.Verification.Call

/-!
# The offline provider

A provider that needs no connection: it answers every call at once, issues numbered identifiers and
approves each of them once. Destinations may be set to fail. Every call is received, but a value
with parts cannot be looked up as a destination, nor as an identifier while any is pending.
-/
namespace OneTimeCode
open Text

/-- A call as the offline provider received it. -/
inductive Receipt where
  | code (call : SendCall) (locale : Option Text)
  | approval (call : ConfirmCall)

/-- The language for the ranges; malformed ones ask for none. -/
def Receipt.localeFor (ranges : List RangeItem) : Option Text :=
  match Lookup.best ranges supportedLanguages with
  | .ok locale => locale
  | .error _ => none

def Receipt.of : Call → Receipt
  | .send call => .code call (localeFor call.ranges)
  | .confirm call => .approval call

structure Offline where
  failing : List Scalar := []
  /-- What tells the verifications apart, by their number from one on. -/
  mark : Nat → Text := hex 32
  issued : Nat := 0
  /-- The identifiers that are not approved yet, in the order of their issue. -/
  pending : List Text := []
  /-- All calls, in their order. -/
  receipts : List Receipt := []

namespace Offline

/-- The identifier of the `n`th verification. -/
def identifier (provider : Offline) (n : Nat) : Text := "VE" ++ provider.mark n

def fail (provider : Offline) (destination : Json) : Except Mismatch Offline :=
  destination.requireScalar.map fun key => { provider with failing := key :: provider.failing }

/-- A provider that fails for the destinations. -/
def failingFor (destinations : List Json) : Except Mismatch Offline :=
  destinations.foldlM fail {}

/-- Whether a destination was set to fail; not-a-number is never the same as another value. -/
def fails (provider : Offline) (destination : Scalar) : Bool :=
  destination ≠ .unlimited .nan && provider.failing.contains destination

/-- The pending identifier that a value names. -/
def named? (provider : Offline) (id : Json) : Option Text :=
  id.text?.filter provider.pending.contains

def send (provider : Offline) (destination : Json) : Except Mismatch CallResult × Offline :=
  match destination.requireScalar with
  | .error reason => (.error reason, provider)
  | .ok key =>
    if provider.fails key then (.ok (.sent none), provider)
    else
      let id := provider.identifier (provider.issued + 1)
      (.ok (.sent (some id)),
        { provider with issued := provider.issued + 1, pending := provider.pending ++ [id] })

def confirm (provider : Offline) (id : Json) : Except Mismatch CallResult × Offline :=
  if provider.pending.isEmpty then (.ok (.confirmed false), provider) else
  match id.requireScalar, provider.named? id with
  | .error reason, _ => (.error reason, provider)
  | .ok _, none => (.ok (.confirmed false), provider)
  | .ok _, some id =>
    (.ok (.confirmed true), { provider with pending := provider.pending.erase id })

def receive (provider : Offline) (receipt : Receipt) : Offline :=
  { provider with receipts := provider.receipts ++ [receipt] }

/-- Notes a call and answers it. -/
def call (provider : Offline) (call : Call) : Except Mismatch CallResult × Receipt × Offline :=
  let receipt := Receipt.of call
  let (answer, next) := match call with
    | .send call => (provider.receive receipt).send call.destination
    | .confirm call => (provider.receive receipt).confirm call.id
  (answer, receipt, next)

end Offline
end OneTimeCode
