import SteelInspection.Foundations.Table
import SteelInspection.Foundations.Text

/-! # Authentication of trigger messages

The trigger gateway accepts a signed message when its timestamp is close to the clock, its
signature verifies and its nonce has not been seen within the replay window.  The seen nonces are
kept with the clock reading at which they were accepted.

The message authentication code is a parameter: a key gives a function from messages to tags, or
is refused.
-/

namespace SteelInspection.Trigger

open Foundations

def maxReplayEntries : Nat := 10000

/-- `SecurityConfig`, as far as authentication reads it.  The two facts are what
`SecurityConfig::from_env` checks before it returns one. -/
structure SecurityConfig where
  authRequired : Bool
  sharedSecret : List Nat
  authWindowSeconds : Int
  secret_long : authRequired = true → 32 ≤ sharedSecret.length
  window_allowed : 5 ≤ authWindowSeconds ∧ authWindowSeconds ≤ 300

structure SeenNonce where
  nonce : String
  seenAt : Int
  deriving DecidableEq, Repr

/-- `GatewayState`, the part that belongs to authentication. -/
structure GatewayState where
  security : SecurityConfig
  replayNonces : Table SeenNonce SeenNonce.nonce

structure AuthError where
  code : Nat
  error : String
  deriving DecidableEq, Repr

/-- What the caller of `authenticate_message` has taken from a request or an envelope. -/
structure SignedMessage where
  timestamp : String
  nonce : String
  signature : String
  transport : String
  body : String
  deriving DecidableEq, Repr

/-- `char::to_digit(16)` of a byte. -/
def hexDigit (byte : Nat) : Option Nat :=
  if 48 ≤ byte ∧ byte ≤ 57 then some (byte - 48)
  else if 65 ≤ byte ∧ byte ≤ 70 then some (byte - 55)
  else if 97 ≤ byte ∧ byte ≤ 102 then some (byte - 87)
  else none

/-- The bytes of an even number of hexadecimal digits. -/
def decodeHexPairs : List Nat → Option (List Nat)
  | [] => some []
  | [_] => none
  | first :: second :: rest => do
    let high ← hexDigit first
    let low ← hexDigit second
    let decoded ← decodeHexPairs rest
    return (high * 16 + low) :: decoded

def decodeHex (value : String) : Option (List Nat) := decodeHexPairs (Text.bytes value)

def signatureMessage (message : SignedMessage) : String :=
  "steel-trigger-v1\n" ++ message.timestamp ++ "\n" ++ message.nonce ++ "\n" ++
    message.transport ++ "\n" ++ message.body

def isNonceByte (byte : Nat) : Bool :=
  Text.isAsciiAlphanumeric (Char.ofNat byte) || (Text.bytes "-_.:").contains byte

def validNonce (value : String) : Bool :=
  let bytes := Text.bytes value
  16 ≤ bytes.length && bytes.length ≤ 128 && bytes.all isNonceByte

variable {state : GatewayState}

section Authentication

variable (hmac : List Nat → Option (List Nat → List Nat))

/-- The checks of `authenticate_message` before it looks at the seen nonces. -/
def checkMessage (security : SecurityConfig) (message : SignedMessage) (now : Int) :
    Except AuthError Unit :=
  match Text.parseI64 message.timestamp with
  | none => .error ⟨401, "invalid_trigger_timestamp"⟩
  | some timestampValue =>
    if (now - timestampValue).natAbs > security.authWindowSeconds.toNat then
      .error ⟨401, "trigger_timestamp_out_of_window"⟩
    else if !validNonce message.nonce then .error ⟨401, "invalid_trigger_nonce"⟩
    else
      match decodeHex message.signature with
      | none => .error ⟨401, "invalid_trigger_signature"⟩
      | some signature =>
        match hmac security.sharedSecret with
        | none => .error ⟨503, "trigger_auth_unavailable"⟩
        | some mac =>
          if mac (Text.bytes (signatureMessage message)) = signature then .ok ()
          else .error ⟨401, "invalid_trigger_signature"⟩

/-- `replay_nonces.retain(|_, seen_at| *seen_at >= cutoff)`. -/
def retainNonces (state : GatewayState) (now : Int) : GatewayState :=
  -- The clock counts seconds since 1970, so the subtraction stays inside 64 bits.
  let cutoff := now - state.security.authWindowSeconds
  { state with replayNonces := state.replayNonces.deleteWhere fun seen => !decide (cutoff ≤ seen.seenAt) }

/-- The rest of `authenticate_message`: old nonces go, then the nonce is looked up and added. -/
def admitNonce (state : GatewayState) (nonce : String) (now : Int) :
    Except AuthError Unit × GatewayState :=
  let state := retainNonces state now
  if (state.replayNonces.find? nonce).isSome then (.error ⟨409, "trigger_replay_detected"⟩, state)
  else if maxReplayEntries ≤ state.replayNonces.rows.length then
    (.error ⟨503, "trigger_replay_cache_full"⟩, state)
  else (.ok (), { state with replayNonces := state.replayNonces.put ⟨nonce, now⟩ })

def authenticateMessage (state : GatewayState) (message : SignedMessage) (now : Int) :
    Except AuthError Unit × GatewayState :=
  if !state.security.authRequired then (.ok (), state)
  else
    match checkMessage hmac state.security message now with
    | .error error => (.error error, state)
    | .ok () => admitNonce state message.nonce now

/-- What the checks establish: the only one that depends on the clock is the distance to the
message's own timestamp. -/
structure Authentic (security : SecurityConfig) (message : SignedMessage) (timestamp : Int) : Prop where
  parsed : Text.parseI64 message.timestamp = some timestamp
  nonce_valid : validNonce message.nonce = true
  signed : ∃ signature mac, decodeHex message.signature = some signature ∧
    hmac security.sharedSecret = some mac ∧ mac (Text.bytes (signatureMessage message)) = signature

theorem checkMessage_ok_iff (security : SecurityConfig) (message : SignedMessage) (now : Int) :
    checkMessage hmac security message now = .ok () ↔
      ∃ timestamp, Authentic hmac security message timestamp ∧
        (now - timestamp).natAbs ≤ security.authWindowSeconds.toNat := by
  constructor
  · intro checked
    unfold checkMessage at checked
    split at checked
    · cases checked
    rename_i timestamp parsed
    split at checked
    · cases checked
    rename_i near
    split at checked
    · cases checked
    rename_i valid
    split at checked
    · cases checked
    rename_i signature decoded
    split at checked
    · cases checked
    rename_i mac keyed
    split at checked
    next verified =>
      exact ⟨timestamp, ⟨parsed, by simpa using valid, signature, mac, decoded, keyed, verified⟩,
        by simpa using near⟩
    · cases checked
  · rintro ⟨timestamp, ⟨parsed, valid, signature, mac, decoded, keyed, verified⟩, near⟩
    simp [checkMessage, parsed, near, valid, decoded, keyed, verified]

/-- An accepted message has passed the checks, its nonce is not among the retained ones and there
was room for it. -/
theorem authenticateMessage_ok_iff (state : GatewayState) (message : SignedMessage) (now : Int)
    (required : state.security.authRequired = true) :
    (authenticateMessage hmac state message now).1 = .ok () ↔
      checkMessage hmac state.security message now = .ok () ∧
        (retainNonces state now).replayNonces.find? message.nonce = none ∧
        (retainNonces state now).replayNonces.rows.length < maxReplayEntries := by
  simp only [authenticateMessage, required, Bool.not_true, Bool.false_eq_true, if_false]
  split
  next refused =>
    simp [refused]
  rename_i checked
  simp only [checked, admitNonce]
  split
  next seen =>
    simp [Option.isSome_iff_ne_none.mp seen]
  · grind [Option.not_isSome_iff_eq_none]

/-- What one call can do to the gateway: nothing, drop the old nonces, or drop them and add the
message's nonce with the clock reading; the last is exactly an acceptance. -/
theorem authenticateMessage_state (state : GatewayState) (message : SignedMessage) (now : Int) :
    (authenticateMessage hmac state message now).2 = state ∨
    (authenticateMessage hmac state message now).2 = retainNonces state now ∨
    (authenticateMessage hmac state message now).2 =
      { retainNonces state now with
        replayNonces := (retainNonces state now).replayNonces.put ⟨message.nonce, now⟩ } := by
  simp only [authenticateMessage, admitNonce]
  split
  · exact .inl rfl
  · split
    · exact .inl rfl
    · grind

theorem authenticateMessage_accepted_state {message : SignedMessage} {now : Int}
    (required : state.security.authRequired = true)
    (accepted : (authenticateMessage hmac state message now).1 = .ok ()) :
    (authenticateMessage hmac state message now).2.replayNonces =
      (retainNonces state now).replayNonces.put ⟨message.nonce, now⟩ := by
  obtain ⟨checked, fresh, room⟩ := (authenticateMessage_ok_iff hmac state message now required).mp accepted
  simp [authenticateMessage, required, checked, admitNonce, fresh, Nat.not_le.mpr room]

end Authentication

@[simp] theorem retainNonces_security (state : GatewayState) (now : Int) :
    (retainNonces state now).security = state.security := rfl

theorem mem_retainNonces {now : Int} {seen : SeenNonce} :
    seen ∈ (retainNonces state now).replayNonces.rows ↔
      seen ∈ state.replayNonces.rows ∧ now - state.security.authWindowSeconds ≤ seen.seenAt := by
  simp [retainNonces, Table.deleteWhere]

end SteelInspection.Trigger
