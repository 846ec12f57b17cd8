import Mathlib.Data.List.Induction
import SteelInspection.Trigger.Authentication

/-! # Replay of trigger messages

A run of the gateway is a list of arrivals whose clock readings never decrease, from a gateway
that has seen no nonce.  A nonce is forgotten by the clock reading at which it was accepted, while
the message stays valid by its own timestamp.  The two windows end together only for a message
that is not dated ahead of the clock; for such a message acceptance is final, and a message dated
ahead can be replayed once its nonce is forgotten.
-/

namespace SteelInspection.Trigger

open Foundations

/-- One call of `authenticate_message` with the clock reading it is made at. -/
structure Arrival where
  message : SignedMessage
  now : Int
  deriving DecidableEq, Repr

def InClockOrder (arrivals : List Arrival) : Prop :=
  arrivals.Pairwise fun earlier later => earlier.now ≤ later.now

instance (arrivals : List Arrival) : Decidable (InClockOrder arrivals) := by
  unfold InClockOrder; infer_instance

section Runs

variable (hmac : List Nat → Option (List Nat → List Nat))

def GatewayState.arrive (state : GatewayState) (arrival : Arrival) : GatewayState :=
  (authenticateMessage hmac state arrival.message arrival.now).2

/-- The gateway after a run that starts with no seen nonce. -/
def gatewayAfter (security : SecurityConfig) (arrivals : List Arrival) : GatewayState :=
  arrivals.foldl (GatewayState.arrive hmac) ⟨security, Table.empty⟩

/-- The arrival is accepted after the run. -/
def Accepted (security : SecurityConfig) (before : List Arrival) (arrival : Arrival) : Prop :=
  (authenticateMessage hmac (gatewayAfter hmac security before) arrival.message arrival.now).1 = .ok ()

/-! ## What a run keeps -/

theorem GatewayState.arrive_security (state : GatewayState) (arrival : Arrival) :
    (state.arrive hmac arrival).security = state.security := by
  rcases authenticateMessage_state hmac state arrival.message arrival.now with same | pruned | added
  · rw [arrive, same]
  · rw [arrive, pruned, retainNonces_security]
  · rw [arrive, added, retainNonces_security]

theorem gatewayAfter_security (security : SecurityConfig) (arrivals : List Arrival) :
    (gatewayAfter hmac security arrivals).security = security := by
  suffices kept : ∀ state : GatewayState,
      (arrivals.foldl (GatewayState.arrive hmac) state).security = state.security from kept _
  induction arrivals with
  | nil => exact fun _ => rfl
  | cons arrival rest ih =>
    intro state
    rw [List.foldl_cons, ih, GatewayState.arrive_security]

/-- Every nonce was seen at a clock reading up to this one. -/
def GatewayState.SeenBy (state : GatewayState) (now : Int) : Prop :=
  ∀ seen ∈ state.replayNonces.rows, seen.seenAt ≤ now

variable {arrival : Arrival} {state : GatewayState} {now since : Int}
  {arrivals before : List Arrival} {nonce : String} {security : SecurityConfig}
  {message : SignedMessage}

theorem GatewayState.SeenBy.arrive (seenBy : state.SeenBy now) (inTime : arrival.now ≤ now) :
    (state.arrive hmac arrival).SeenBy now := by
  intro seen mem
  rcases authenticateMessage_state hmac state arrival.message arrival.now with same | pruned | added
  · rw [GatewayState.arrive, same] at mem
    exact seenBy seen mem
  · rw [GatewayState.arrive, pruned] at mem
    exact seenBy seen (mem_retainNonces.mp mem).1
  · rw [GatewayState.arrive, added] at mem
    rcases Table.mem_put mem with rfl | old
    · exact inTime
    · exact seenBy seen (mem_retainNonces.mp old).1

theorem GatewayState.SeenBy.run (seenBy : state.SeenBy now)
    (inTime : ∀ arrival ∈ arrivals, arrival.now ≤ now) :
    (arrivals.foldl (GatewayState.arrive hmac) state).SeenBy now := by
  induction arrivals generalizing state with
  | nil => exact seenBy
  | cons arrival rest ih =>
    exact ih (seenBy.arrive hmac (inTime arrival List.mem_cons_self))
      fun later mem => inTime later (List.mem_cons_of_mem arrival mem)

/-- The nonce is known as seen at this time or later. -/
def GatewayState.Remembers (state : GatewayState) (nonce : String) (since : Int) : Prop :=
  ∃ seen, state.replayNonces.find? nonce = some seen ∧ since ≤ seen.seenAt

section

variable (remembers : state.Remembers nonce since)
include remembers

theorem GatewayState.Remembers.retain (inside : now - state.security.authWindowSeconds ≤ since) :
    (retainNonces state now).Remembers nonce since := by
  obtain ⟨seen, found, recent⟩ := remembers
  refine ⟨seen, ?_, recent⟩
  have kept : now - state.security.authWindowSeconds ≤ seen.seenAt := by omega
  rw [retainNonces, Table.find?_deleteWhere, found]
  simp [Option.filter, kept]

theorem GatewayState.Remembers.arrive (later : since ≤ arrival.now)
    (inside : arrival.now - state.security.authWindowSeconds ≤ since) :
    (state.arrive hmac arrival).Remembers nonce since := by
  rcases authenticateMessage_state hmac state arrival.message arrival.now with same | pruned | added
  · rw [GatewayState.arrive, same]
    exact remembers
  · rw [GatewayState.arrive, pruned]
    exact remembers.retain inside
  rw [GatewayState.arrive, added]
  obtain ⟨seen, found, recent⟩ := remembers.retain inside
  by_cases reused : arrival.message.nonce = nonce
  · -- Seen again: the entry is newer than the one that was remembered.
    exact ⟨⟨arrival.message.nonce, arrival.now⟩, by simp [Table.find?_put, reused], later⟩
  · exact ⟨seen, by simpa [Table.find?_put, reused] using found, recent⟩

theorem GatewayState.Remembers.run (later : ∀ arrival ∈ arrivals, since ≤ arrival.now)
    (inside : ∀ arrival ∈ arrivals, arrival.now - state.security.authWindowSeconds ≤ since) :
    (arrivals.foldl (GatewayState.arrive hmac) state).Remembers nonce since := by
  induction arrivals generalizing state with
  | nil => exact remembers
  | cons arrival rest ih =>
    have first := remembers.arrive hmac (later arrival List.mem_cons_self)
      (inside arrival List.mem_cons_self)
    apply ih first
    · exact fun other mem => later other (List.mem_cons_of_mem arrival mem)
    · grind [GatewayState.arrive_security]

end

/-! ## The two windows -/

section

variable (required : security.authRequired = true)
include required

theorem Accepted.remembers (accepted : Accepted hmac security before arrival) :
    (gatewayAfter hmac security (before ++ [arrival])).Remembers arrival.message.nonce arrival.now := by
  have requiredThere : (gatewayAfter hmac security before).security.authRequired = true := by
    rw [gatewayAfter_security, required]
  have added := authenticateMessage_accepted_state hmac requiredThere accepted
  refine ⟨⟨arrival.message.nonce, arrival.now⟩, ?_, Int.le_refl _⟩
  simp only [gatewayAfter, List.foldl_append, List.foldl_cons, List.foldl_nil]
  rw [GatewayState.arrive, ← gatewayAfter, added]
  simp [Table.find?_put]

theorem Accepted.authentic (accepted : Accepted hmac security before arrival) :
    ∃ timestamp, Authentic hmac security arrival.message timestamp ∧
      (arrival.now - timestamp).natAbs ≤ security.authWindowSeconds.toNat := by
  have requiredThere : (gatewayAfter hmac security before).security.authRequired = true := by
    rw [gatewayAfter_security, required]
  have checked := ((authenticateMessage_ok_iff hmac _ _ _ requiredThere).mp accepted).1
  rw [gatewayAfter_security] at checked
  exact (checkMessage_ok_iff hmac security arrival.message arrival.now).mp checked

/-- A message that is not dated ahead of the clock is outside its own window as soon as its nonce
is outside the replay window. -/
theorem not_accepted_again {between : List Arrival} {again timestamp : Int}
    (accepted : Accepted hmac security before ⟨message, now⟩)
    (parsed : Text.parseI64 message.timestamp = some timestamp) (notAhead : timestamp ≤ now)
    (ordered : InClockOrder (before ++ ⟨message, now⟩ :: between ++ [⟨message, again⟩])) :
    ¬ Accepted hmac security (before ++ ⟨message, now⟩ :: between) ⟨message, again⟩ := by
  intro acceptedAgain
  have requiredThere : (gatewayAfter hmac security
      (before ++ ⟨message, now⟩ :: between)).security.authRequired = true := by
    rw [gatewayAfter_security, required]
  obtain ⟨sameTimestamp, authentic, near⟩ := acceptedAgain.authentic hmac required
  have same : sameTimestamp = timestamp := Option.some.inj (authentic.parsed.symm.trans parsed)
  -- The second acceptance puts the end of the replay window at or before the first one.
  have positive := security.window_allowed
  have inside : again - security.authWindowSeconds ≤ now := by
    simp only at near
    omega
  have order : ∀ arrival ∈ between, now ≤ arrival.now ∧ arrival.now ≤ again := by
    intro arrival mem
    simp only [InClockOrder, List.pairwise_append, List.pairwise_cons, List.append_assoc,
      List.cons_append] at ordered
    exact ⟨ordered.2.1.1 arrival (by simp [mem]),
      ordered.2.1.2.2.2 arrival mem ⟨message, again⟩ (by simp)⟩
  have remembered : (gatewayAfter hmac security (before ++ ⟨message, now⟩ :: between)).Remembers
      message.nonce now := by
    have first := accepted.remembers hmac required
    have rest := GatewayState.Remembers.run hmac first (fun arrival mem => (order arrival mem).1)
      (by
        intro arrival mem
        have bounds := order arrival mem
        rw [gatewayAfter_security]
        show arrival.now - security.authWindowSeconds ≤ now
        omega)
    simpa [gatewayAfter, List.foldl_append] using rest
  have kept := remembered.retain (by rw [gatewayAfter_security]; exact inside)
  obtain ⟨seen, found, -⟩ := kept
  have forgotten := ((authenticateMessage_ok_iff hmac _ _ _ requiredThere).mp acceptedAgain).2.1
  rw [found] at forgotten
  cases forgotten

end

/-- One second after the replay window of an acceptance no nonce is left that was seen by then. -/
theorem retainNonces_forgets (seenBy : state.SeenBy now) :
    (retainNonces state (now + state.security.authWindowSeconds + 1)).replayNonces.rows = [] := by
  apply List.eq_nil_iff_forall_not_mem.mpr
  intro seen mem
  have recent := mem_retainNonces.mp mem
  have old := seenBy seen recent.1
  omega

/-- A message dated ahead of the clock is still inside its own window then, so it is accepted a
second time. -/
theorem accepted_again {timestamp : Int} (required : security.authRequired = true)
    (ordered : InClockOrder (before ++ [⟨message, now⟩]))
    (accepted : Accepted hmac security before ⟨message, now⟩)
    (parsed : Text.parseI64 message.timestamp = some timestamp) (ahead : now < timestamp) :
    Accepted hmac security (before ++ [⟨message, now⟩])
      ⟨message, now + security.authWindowSeconds + 1⟩ := by
  obtain ⟨sameTimestamp, authentic, near⟩ := accepted.authentic hmac required
  have same : sameTimestamp = timestamp := Option.some.inj (authentic.parsed.symm.trans parsed)
  have stillNear : (now + security.authWindowSeconds + 1 - sameTimestamp).natAbs ≤
      security.authWindowSeconds.toNat := by
    simp only at near
    omega
  have seenBy : (gatewayAfter hmac security (before ++ [⟨message, now⟩])).SeenBy now := by
    refine GatewayState.SeenBy.run hmac (fun _ mem => nomatch mem) fun arrival mem => ?_
    rcases List.mem_append.mp mem with earlier | last
    · exact (List.pairwise_append.mp ordered).2.2 arrival earlier _ List.mem_cons_self
    · simp only [List.mem_singleton] at last
      simp [last]
  have empty := retainNonces_forgets seenBy
  rw [gatewayAfter_security] at empty
  apply (authenticateMessage_ok_iff hmac _ _ _ (by rw [gatewayAfter_security, required])).mpr
  refine ⟨?_, ?_, ?_⟩
  · rw [gatewayAfter_security]
    exact (checkMessage_ok_iff hmac _ _ _).mpr ⟨sameTimestamp, authentic, stillNear⟩
  · simp [Table.find?, empty]
  · rw [empty]
    decide

/-- A message that was accepted is refused from then on, whatever arrives in between, exactly when
authentication is on and the message is not dated ahead of the clock it was accepted at. -/
theorem accepted_once_iff (security : SecurityConfig) (before : List Arrival) (message : SignedMessage)
    (now : Int) (ordered : InClockOrder (before ++ [⟨message, now⟩]))
    (accepted : Accepted hmac security before ⟨message, now⟩) :
    (∀ between again, InClockOrder (before ++ ⟨message, now⟩ :: between ++ [⟨message, again⟩]) →
      ¬ Accepted hmac security (before ++ ⟨message, now⟩ :: between) ⟨message, again⟩) ↔
    security.authRequired = true ∧
      ∀ timestamp, Text.parseI64 message.timestamp = some timestamp → timestamp ≤ now := by
  constructor
  · intro once
    have required : security.authRequired = true := by
      by_contra off
      rw [Bool.not_eq_true] at off
      -- without authentication every message is accepted every time
      apply once [] now _ (by simp [Accepted, authenticateMessage, gatewayAfter_security, off])
      simp only [InClockOrder, List.pairwise_append, List.mem_append, List.mem_singleton] at ordered ⊢
      refine ⟨ordered, by simp, ?_⟩
      rintro arrival (earlier | rfl) last rfl
      · exact ordered.2.2 arrival earlier ⟨message, now⟩ rfl
      · exact Int.le_refl now
    refine ⟨required, ?_⟩
    intro timestamp parsed
    by_contra ahead
    rw [Int.not_le] at ahead
    apply once [] _ _ (accepted_again hmac required ordered accepted parsed ahead)
    have positive := security.window_allowed
    simp only [InClockOrder, List.pairwise_append, List.mem_append, List.mem_singleton] at ordered ⊢
    refine ⟨ordered, by simp, ?_⟩
    rintro arrival (earlier | rfl) last rfl
    · grind
    · simp only
      omega
  · rintro ⟨required, notAhead⟩ between again order
    obtain ⟨timestamp, authentic, -⟩ := accepted.authentic hmac required
    exact not_accepted_again hmac required accepted authentic.parsed
      (notAhead timestamp authentic.parsed) order

/-- Whatever arrives, few nonces are remembered, and only those of messages that passed the checks. -/
theorem remembered_nonces_checked (security : SecurityConfig) (arrivals : List Arrival) :
    let rows := (gatewayAfter hmac security arrivals).replayNonces.rows
    rows.length ≤ maxReplayEntries ∧ ∀ seen ∈ rows, ∃ arrival ∈ arrivals,
      seen = ⟨arrival.message.nonce, arrival.now⟩ ∧
        checkMessage hmac security arrival.message arrival.now = .ok () := by
  induction arrivals using List.reverseRecOn with
  | nil => simp [gatewayAfter, Table.empty]
  | append_singleton arrivals arrival ih =>
    simp only [gatewayAfter, List.foldl_concat]
    rw [← gatewayAfter, GatewayState.arrive, authenticateMessage, gatewayAfter_security]
    simp only [admitNonce, retainNonces, Table.deleteWhere, Table.put]
    -- unchanged, pruned, or pruned and added
    repeat' split
    all_goals grind [List.length_filter_le]

end Runs

/-! ## A message dated ahead of the clock

The gateway has the default window.  The message code gives the tag that HMAC-SHA256 computes for
the message under the secret. -/

def plantSecurity : SecurityConfig where
  authRequired := true
  sharedSecret := Text.bytes "0123456789abcdef0123456789abcdef"
  authWindowSeconds := 30
  secret_long := by decide
  window_allowed := by decide

def plantMac : List Nat → Option (List Nat → List Nat) := fun _ => some fun _ =>
  [0x75, 0x1a, 0xc4, 0x7d, 0x57, 0x54, 0x2e, 0x19, 0x6e, 0x2c, 0x42, 0x39, 0xe1, 0x23, 0x77, 0x49,
   0xcb, 0x8d, 0xc3, 0xe7, 0xb7, 0x04, 0x0f, 0x29, 0xd8, 0xe2, 0x16, 0x6c, 0x9c, 0x21, 0x14, 0xc6]

def steelIn : SignedMessage where
  timestamp := "1000"
  nonce := "plc-a-cycle-0001"
  signature := "751ac47d57542e196e2c4239e1237749cb8dc3e7b7040f29d8e2166c9c2114c6"
  transport := "http"
  body := "\x7b\"event\":\"steel-in\",\"requestId\":\"cycle-1\"\x7d"

/-- Dated five seconds ahead of the gateway's clock, the message is accepted, and accepted again
after 31 seconds. -/
theorem dated_ahead_accepted_twice : InClockOrder [⟨steelIn, 995⟩, ⟨steelIn, 1026⟩] ∧
    Accepted plantMac plantSecurity [] ⟨steelIn, 995⟩ ∧
    Accepted plantMac plantSecurity [⟨steelIn, 995⟩] ⟨steelIn, 1026⟩ := by
  refine ⟨by decide, ?_, ?_⟩
  · unfold Accepted
    decide +kernel
  · unfold Accepted
    decide +kernel

/-- Accepted on time, the message is refused for good. -/
theorem accepted_once_on_time : Accepted plantMac plantSecurity [] ⟨steelIn, 1000⟩ ∧
    ∀ between again, InClockOrder (⟨steelIn, 1000⟩ :: between ++ [⟨steelIn, again⟩]) →
      ¬ Accepted plantMac plantSecurity (⟨steelIn, 1000⟩ :: between) ⟨steelIn, again⟩ := by
  have onTime : Accepted plantMac plantSecurity [] ⟨steelIn, 1000⟩ := by
    unfold Accepted
    decide +kernel
  refine ⟨onTime, ?_⟩
  apply (accepted_once_iff plantMac plantSecurity [] steelIn 1000 (by decide) onTime).mpr
  refine ⟨rfl, ?_⟩
  intro timestamp parsed
  cases parsed
  exact Int.le_refl _

end SteelInspection.Trigger
