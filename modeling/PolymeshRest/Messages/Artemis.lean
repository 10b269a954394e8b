import PolymeshRest.Data.Lists
import PolymeshRest.Js.Record
import PolymeshRest.Machine.Basic
import PolymeshRest.Messages.Basic

/-!
# The links of the Artemis service

`ArtemisService` opens one connection, one sender for each address it sends to and one receiver
for each listener, and closes them all when the application shuts down.  The connection is
memoised as a promise, at once.  Senders are memoised when they have been created: `getAddress`
looks into the store, waits twice and fills the store only then.

Any number of calls of `sendMessage` and `registerListener` run side by side, each given by the
`await` it stands at.  Links are numbered in the order of their creation.

## Main definitions

* `Artemis`, `Artemis.next`, `Artemis.machine` : the service, its calls and its shutdown.
* `Artemis.Sound` : one connection, one sender for an address, and every link closed once.
* `Artemis.Single` : a sender is created only where none is stored, or about to be stored, for its
  address.

## Main results

* `Artemis.inv_next` : what single steps keep; above all, every link is held in one place.
* `Artemis.sound_iff` : a run is sound exactly if all its steps are single.
-/

namespace PolymeshRest

/-- What a call makes on the connection. -/
inductive Link where
  /-- `createAwaitableSender`, for `sendMessage` -/
  | sender (addressName : AddressName)
  /-- `createReceiver`, for `registerListener` -/
  | receiver (queueName : QueueName)
  deriving DecidableEq, Repr

/-- How a call of the service ends. -/
inductive ArtemisResult where
  | sent (receipt : MessageReceipt)
  | registered
  | rejected
  deriving DecidableEq, Repr

/-- Where a call of the service stands. -/
inductive ArtemisPhase where
  /-- Waits for `getConnection`. -/
  | connecting
  /-- Waits for `createAwaitableSender` or `createReceiver`. -/
  | creating
  /-- The link has been created, and the call has not gone on with it. -/
  | created (link : ℕ)
  /-- Waits for `send`. -/
  | sending (sender : ℕ)
  | settled (result : ArtemisResult)
  deriving DecidableEq, Repr

/-- A call of `sendMessage` or of `registerListener`. -/
structure ArtemisCall where
  makes : Link
  phase : ArtemisPhase
  deriving DecidableEq, Repr

/-- The call has ended. -/
def ArtemisCall.isSettled (call : ArtemisCall) : Bool :=
  match call.phase with
  | .settled _ => true
  | _ => false

/-- The link that only the call has. -/
def ArtemisCall.pending (call : ArtemisCall) : Option ℕ :=
  match call.phase with
  | .created link => some link
  | _ => none

/-- How far `onApplicationShutdown` is. -/
inductive ShutdownPhase where
  | running
  /-- The links are being closed. -/
  | closing
  /-- Waits for `getConnection`. -/
  | connecting
  /-- The connection is closed, or `getConnection` was rejected. -/
  | ended
  deriving DecidableEq, Repr

/-- `ArtemisService`, its calls, and what it has done to the broker. -/
structure Artemis where
  /-- `connectionPromise`, and its result when it has settled. -/
  connectionPromise : Option (Option Bool) := none
  addressStore : Js.Record AddressName ℕ := .empty
  receivers : List ℕ := []
  calls : List ArtemisCall := []
  shutdown : ShutdownPhase := .running
  /-- The number of connections that were opened. -/
  connections : ℕ := 0
  /-- The links that were created. -/
  links : List Link := []
  /-- The links on which `close` was called. -/
  closed : List ℕ := []

/-- One atomic step. -/
inductive ArtemisAct where
  /-- `sendMessage` or `registerListener` is called. -/
  | call (makes : Link)
  /-- The promise of the connection settles. -/
  | connects (ok : Bool)
  /-- A call goes on after `getConnection`. -/
  | connected (i : ℕ)
  /-- What a call makes is created, or creating it is rejected. -/
  | creates (i : ℕ) (ok : Bool)
  /-- A call goes on with the link it has made. -/
  | created (i : ℕ)
  /-- `send` ends, with the id of its receipt if it succeeds. -/
  | sent (i : ℕ) (receipt : Option ℕ)
  /-- `onApplicationShutdown` is called. -/
  | shutdown
  /-- What `onApplicationShutdown` closes has been closed, or has failed to close. -/
  | linksClosed
  /-- `onApplicationShutdown` goes on after `getConnection`. -/
  | disconnect
  deriving DecidableEq, Repr

namespace Artemis

/-- `getConnection`, up to the promise that is returned. -/
def getConnection (s : Artemis) : Artemis :=
  match s.connectionPromise with
  | some _ => s
  | none => { s with connectionPromise := some none, connections := s.connections + 1 }

/-- `addressEntries`, by their senders. -/
def addressEntries (s : Artemis) : List ℕ := s.addressStore.entries.map Prod.snd

/-- The state with a call replaced. -/
def withCall (s : Artemis) (i : ℕ) (call : ArtemisCall) : Artemis :=
  { s with calls := s.calls.set i call }

/-- The start of a call; `getAddress` returns at once if it finds an entry. -/
def begin (s : Artemis) : Link → Artemis
  | .sender addressName =>
    match s.addressStore.get addressName with
    | some sender => { s with calls := s.calls ++ [⟨.sender addressName, .sending sender⟩] }
    | none =>
      { s.getConnection with calls := s.calls ++ [⟨.sender addressName, .connecting⟩] }
  | .receiver queueName =>
    { s.getConnection with calls := s.calls ++ [⟨.receiver queueName, .connecting⟩] }

/-- A call goes on with the link it has made. -/
def keep (s : Artemis) (i : ℕ) (link : ℕ) : Link → Artemis
  | .sender addressName =>
    { s with addressStore := s.addressStore.set addressName link }.withCall i
      ⟨.sender addressName, .sending link⟩
  | .receiver queueName =>
    { s with receivers := s.receivers ++ [link] }.withCall i
      ⟨.receiver queueName, .settled .registered⟩

/-- The state a step leads to. -/
def next (s : Artemis) : ArtemisAct → Option Artemis
  | .call makes => if s.shutdown = .running then some (s.begin makes) else none
  | .connects ok =>
    if s.connectionPromise = some none then some { s with connectionPromise := some (some ok) }
    else none
  | .connected i =>
    match s.calls[i]?, s.connectionPromise with
    | some ⟨makes, .connecting⟩, some (some ok) =>
      some (s.withCall i ⟨makes, if ok then .creating else .settled .rejected⟩)
    | _, _ => none
  | .creates i ok =>
    match s.calls[i]? with
    | some ⟨makes, .creating⟩ =>
      if ok then
        some ({ s with links := s.links ++ [makes] }.withCall i ⟨makes, .created s.links.length⟩)
      else some (s.withCall i ⟨makes, .settled .rejected⟩)
    | _ => none
  | .created i =>
    match s.calls[i]? with
    | some ⟨makes, .created link⟩ => some (s.keep i link makes)
    | _ => none
  | .sent i receipt =>
    match s.calls[i]? with
    | some ⟨.sender addressName, .sending _⟩ =>
      some (s.withCall i ⟨.sender addressName,
        .settled (receipt.elim .rejected fun id => .sent ⟨id, addressName⟩)⟩)
    | _ => none
  | .shutdown =>
    if s.shutdown = .running ∧ s.calls.all ArtemisCall.isSettled then
      some { s with
        closed := s.closed ++ (s.receivers ++ s.addressEntries)
        shutdown := .closing }
    else none
  | .linksClosed =>
    if s.shutdown = .closing then some { s.getConnection with shutdown := .connecting } else none
  | .disconnect =>
    match s.shutdown, s.connectionPromise with
    | .connecting, some (some _) => some { s with shutdown := .ended }
    | _, _ => none

/-- The service at work. -/
def machine : Machine Artemis ArtemisAct := ⟨next⟩

/-! ### What is to hold -/

/-- One connection, one sender for an address, and every link closed once by the shutdown. -/
structure Sound (s : Artemis) : Prop where
  connection : s.connections ≤ 1
  sender : ∀ addressName, s.links.count (.sender addressName) ≤ 1
  closed : s.shutdown ≠ .running → ∀ link < s.links.length, s.closed.count link = 1

/-- A step leads to a sound state. -/
def Keeps (s : Artemis) (a : ArtemisAct) : Prop := ∀ s', machine.next s a = some s' → s'.Sound

/-- A call's sender is created only where `addressStore` has no entry for its address and no other
call has a sender for it that is still to be stored. -/
def Single (s : Artemis) : ArtemisAct → Prop
  | .creates i true => ∀ addressName, s.calls[i]? = some ⟨.sender addressName, .creating⟩ →
    s.addressStore.get addressName = none ∧
      ∀ link, ⟨.sender addressName, .created link⟩ ∉ s.calls
  | _ => True

/-! ### The invariant -/

/-- The links that calls have made and not gone on with. -/
def pending (s : Artemis) : List ℕ := s.calls.filterMap ArtemisCall.pending

/-- The links that the service holds. -/
def held (s : Artemis) : List ℕ := s.receivers ++ s.addressEntries ++ s.pending

/-- What single steps keep. -/
structure Inv (s : Artemis) : Prop where
  connections : s.connections = if s.connectionPromise.isSome then 1 else 0
  /-- Every link is held in one place. -/
  held : ∀ link, s.held.count link = if link < s.links.length then 1 else 0
  received : ∀ link ∈ s.receivers, ∃ queueName, s.links[link]? = some (.receiver queueName)
  stored : ∀ addressName link, s.addressStore.get addressName = some link →
    s.links[link]? = some (.sender addressName)
  made : ∀ makes link, ⟨makes, .created link⟩ ∈ s.calls → s.links[link]? = some makes
  sender : ∀ addressName, s.links.count (.sender addressName) ≤ 1
  settled : s.shutdown ≠ .running → ∀ call ∈ s.calls, call.isSettled = true
  closed : s.closed = if s.shutdown = .running then [] else s.receivers ++ s.addressEntries

theorem inv_init : Inv {} where
  connections := rfl
  held _ := rfl
  received _ h := nomatch h
  stored _ _ h := nomatch h
  made _ _ h := nomatch h
  sender _ := Nat.zero_le 1
  settled h := absurd rfl h
  closed := rfl

variable {s : Artemis}

theorem pending_of_isSettled {call : ArtemisCall} (h : call.isSettled = true) :
    call.pending = none := by
  obtain ⟨makes, phase⟩ := call
  cases phase <;> first | rfl | cases h

/-- What is held is held by the stores where all calls have settled. -/
theorem pending_eq_nil (h : ∀ call ∈ s.calls, call.isSettled = true) : s.pending = [] :=
  List.filterMap_eq_nil_iff.2 fun call hcall => pending_of_isSettled (h call hcall)

theorem sound_of_inv (h : Inv s) : s.Sound where
  connection := by
    rw [h.connections]
    split <;> decide
  sender := h.sender
  closed hshutdown link hlink := by
    have hheld := h.held link
    rw [held, pending_eq_nil (h.settled hshutdown), List.append_nil, if_pos hlink] at hheld
    rw [h.closed, if_neg hshutdown, hheld]

theorem Inv.running (h : Inv s) {i : ℕ} {call : ArtemisCall} (hi : s.calls[i]? = some call)
    (hcall : call.isSettled = false) : s.shutdown = .running := by
  by_contra hshutdown
  have hsettled := h.settled hshutdown call (List.mem_of_getElem? hi)
  rw [hcall] at hsettled
  cases hsettled

theorem mem_withCall {i : ℕ} {call new : ArtemisCall} (h : call ∈ (s.withCall i new).calls) :
    call = new ∨ call ∈ s.calls :=
  (List.mem_or_eq_of_mem_set h).symm

theorem inv_getConnection (h : Inv s) : Inv s.getConnection := by
  rw [getConnection]
  cases hconn : s.connectionPromise with
  | some _ => exact h
  | none =>
    refine { h with connections := ?_ }
    have hconnections := h.connections
    rw [hconn] at hconnections
    simp [hconnections]

@[simp] theorem getConnection_shutdown : s.getConnection.shutdown = s.shutdown := by
  rw [getConnection]
  split <;> rfl

@[simp] theorem getConnection_calls : s.getConnection.calls = s.calls := by
  rw [getConnection]
  split <;> rfl

theorem inv_addCall (h : Inv s) (hshutdown : s.shutdown = .running) {call : ArtemisCall}
    (hcall : call.pending = none) : Inv { s with calls := s.calls ++ [call] } where
  connections := h.connections
  held link := by
    have hpending : (s.calls ++ [call]).filterMap ArtemisCall.pending = s.pending := by
      simp [pending, hcall]
    show (s.receivers ++ s.addressEntries ++ _).count link = _
    rw [pending, hpending]
    exact h.held link
  received := h.received
  stored := h.stored
  made makes link hmem := by
    rcases List.mem_append.1 hmem with hmem | hmem
    · exact h.made makes link hmem
    · rw [← List.mem_singleton.1 hmem] at hcall
      cases hcall
  sender := h.sender
  settled hne := absurd hshutdown hne
  closed := h.closed

theorem inv_withCall (h : Inv s) {i : ℕ} {old new : ArtemisCall} (hi : s.calls[i]? = some old)
    (hsettled : old.isSettled = false) (hold : old.pending = none) (hnew : new.pending = none) :
    Inv (s.withCall i new) where
  connections := h.connections
  held link := by
    have hcount := count_filterMap_set ArtemisCall.pending hi new link
    have hheld := h.held link
    simp only [hold, hnew, Option.toList_none, List.count_nil, Nat.add_zero] at hcount
    simp only [held, pending, List.count_append] at hheld ⊢
    exact hcount ▸ hheld
  received := h.received
  stored := h.stored
  made makes link hmem := by
    rcases mem_withCall hmem with rfl | hmem
    · cases hnew
    · exact h.made makes link hmem
  sender := h.sender
  settled hne := absurd (h.running hi hsettled) hne
  closed := h.closed

/-- Where a link is held. -/
theorem Inv.holder (h : Inv s) {link : ℕ} {makes : Link} (hlink : s.links[link]? = some makes) :
    (∃ queueName, makes = .receiver queueName) ∨
      (∃ addressName, makes = .sender addressName ∧ s.addressStore.get addressName = some link) ∨
        ⟨makes, .created link⟩ ∈ s.calls := by
  have hlt : link < s.links.length := (List.getElem?_eq_some_iff.1 hlink).1
  have hheld : link ∈ s.held := by
    rw [← List.count_pos_iff, h.held link, if_pos hlt]
    exact Nat.one_pos
  simp only [Artemis.held, List.mem_append] at hheld
  rcases hheld with (hreceived | hstored) | hpending
  · obtain ⟨queueName, hqueue⟩ := h.received link hreceived
    exact .inl ⟨queueName, Option.some.inj (hlink.symm.trans hqueue)⟩
  · obtain ⟨⟨addressName, _⟩, hentry, rfl⟩ := List.mem_map.1 hstored
    have hget := Js.Record.get_eq_some_iff.2 hentry
    have hsender := hlink.symm.trans (h.stored addressName _ hget)
    exact .inr (.inl ⟨addressName, Option.some.inj hsender, hget⟩)
  · obtain ⟨⟨made, phase⟩, hcall, hphase⟩ := List.mem_filterMap.1 hpending
    cases phase <;> cases hphase
    obtain rfl := Option.some.inj (hlink.symm.trans (h.made made link hcall))
    exact .inr (.inr hcall)

/-- A call makes a link; a sender, where there is none for its address. -/
theorem inv_creates (h : Inv s) {i : ℕ} {makes : Link} (hi : s.calls[i]? = some ⟨makes, .creating⟩)
    (hsingle : ∀ addressName, makes = .sender addressName →
      s.addressStore.get addressName = none ∧
        ∀ link, ⟨.sender addressName, .created link⟩ ∉ s.calls) :
    Inv ({ s with links := s.links ++ [makes] }.withCall i ⟨makes, .created s.links.length⟩) := by
  have hkept : ∀ {link : ℕ} {other : Link}, s.links[link]? = some other →
      (s.links ++ [makes])[link]? = some other := fun {link other} hlink => by
    rw [List.getElem?_append_left (List.getElem?_eq_some_iff.1 hlink).1, hlink]
  exact
    { connections := h.connections
      held := fun link => by
        have hcount := count_filterMap_set ArtemisCall.pending hi
          ⟨makes, .created s.links.length⟩ link
        have hheld := h.held link
        simp only [ArtemisCall.pending, Option.toList_none, Option.toList_some, List.count_nil,
          List.count_singleton, beq_iff_eq] at hcount
        simp only [held, pending, withCall, addressEntries, List.count_append, List.length_append,
          List.length_singleton] at hheld ⊢
        split_ifs at hcount hheld ⊢ <;> omega
      received := fun link hlink => (h.received link hlink).imp fun _ hqueue => hkept hqueue
      stored := fun addressName link hget => hkept (h.stored addressName link hget)
      made := fun other link hmem => by
        rcases mem_withCall hmem with hnew | hmem
        · cases hnew
          exact List.getElem?_concat_length ..
        · exact hkept (h.made other link hmem)
      sender := fun addressName => by
        show (s.links ++ [makes]).count _ ≤ 1
        rw [List.count_append, List.count_singleton]
        by_cases hmakes : makes = .sender addressName
        · -- no sender of the address is stored or made, so there is none
          obtain ⟨hget, hmade⟩ := hsingle addressName hmakes
          have hnone : s.links.count (.sender addressName) = 0 := by
            refine List.count_eq_zero.2 fun hmem => ?_
            obtain ⟨link, hlink⟩ := List.mem_iff_getElem?.1 hmem
            rcases h.holder hlink with ⟨_, hsender⟩ | ⟨_, hsender, hstored⟩ | hcall
            · cases hsender
            · cases hsender
              rw [hget] at hstored
              cases hstored
            · exact hmade link hcall
          simp [hnone, hmakes]
        · simpa [hmakes] using h.sender addressName
      settled := fun hne => absurd (h.running hi rfl) hne
      closed := h.closed }

/-- What a call has made is not stored yet. -/
theorem get_eq_none_of_created (h : Inv s) {addressName : AddressName} {link : ℕ}
    (hcall : ⟨.sender addressName, .created link⟩ ∈ s.calls) :
    s.addressStore.get addressName = none := by
  cases hget : s.addressStore.get addressName with
  | none => rfl
  | some other =>
    -- the entry would be the same sender, held in two places
    obtain rfl := eq_of_count_le_one (h.sender addressName) (h.stored _ _ hget)
      (h.made _ _ hcall)
    have hentry : other ∈ s.addressEntries :=
      List.mem_map.2 ⟨_, Js.Record.get_eq_some_iff.1 hget, rfl⟩
    have hpending : other ∈ s.pending := List.mem_filterMap.2 ⟨_, hcall, rfl⟩
    have hheld := h.held other
    have hone := List.count_pos_iff.2 hentry
    have htwo := List.count_pos_iff.2 hpending
    simp only [held, List.count_append] at hheld
    split_ifs at hheld <;> omega

/-- A call stores what it has made. -/
theorem inv_keep (h : Inv s) {i : ℕ} {makes : Link} {link : ℕ}
    (hi : s.calls[i]? = some ⟨makes, .created link⟩) : Inv (s.keep i link makes) := by
  have hmem : ⟨makes, .created link⟩ ∈ s.calls := List.mem_of_getElem? hi
  have hrunning : s.shutdown = .running := h.running hi rfl
  have hmade : s.links[link]? = some makes := h.made makes link hmem
  cases makes with
  | sender addressName =>
    -- the link moves from the call to `addressStore`, so it is held as often as before
    have hnone := get_eq_none_of_created h hmem
    exact
      { connections := h.connections
        held := fun other => by
          have hcount := count_filterMap_set ArtemisCall.pending hi
            ⟨.sender addressName, .sending link⟩ other
          simp only [ArtemisCall.pending, Option.toList_none, Option.toList_some, List.count_nil]
            at hcount
          have hsame : (s.keep i link (.sender addressName)).held.count other =
              s.held.count other := by
            simp only [held, pending, keep, withCall, addressEntries, Js.Record.entries_set hnone,
              List.map_append, List.map_cons, List.map_nil, List.count_append]
            omega
          exact hsame.trans (h.held other)
        received := h.received
        stored := fun other k hget => by
          rw [keep, withCall, Js.Record.get_set] at hget
          split_ifs at hget with hother
          · cases hget
            exact hother ▸ hmade
          · exact h.stored other k hget
        made := fun other k hcall => by
          rcases mem_withCall hcall with hnew | hcall
          · cases hnew
          · exact h.made other k hcall
        sender := h.sender
        settled := fun hne => absurd hrunning hne
        closed := by
          show s.closed = if s.shutdown = .running then _ else _
          rw [h.closed, if_pos hrunning, if_pos hrunning] }
  | receiver queueName =>
    exact
      { connections := h.connections
        held := fun other => by
          have hcount := count_filterMap_set ArtemisCall.pending hi
            ⟨.receiver queueName, .settled .registered⟩ other
          simp only [ArtemisCall.pending, Option.toList_none, Option.toList_some, List.count_nil]
            at hcount
          have hsame : (s.keep i link (.receiver queueName)).held.count other =
              s.held.count other := by
            simp only [held, pending, keep, withCall, addressEntries, List.count_append]
            omega
          exact hsame.trans (h.held other)
        received := fun other hother => by
          rcases List.mem_append.1 hother with hother | hother
          · exact h.received other hother
          · rw [List.mem_singleton.1 hother]
            exact ⟨queueName, hmade⟩
        stored := h.stored
        made := fun other k hcall => by
          rcases mem_withCall hcall with hnew | hcall
          · cases hnew
          · exact h.made other k hcall
        sender := h.sender
        settled := fun hne => absurd hrunning hne
        closed := by
          show s.closed = if s.shutdown = .running then _ else _
          rw [h.closed, if_pos hrunning, if_pos hrunning] }

/-- **The step lemma**: what a single step keeps. -/
theorem inv_next {s' : Artemis} {a : ArtemisAct} (h : Inv s) (hsingle : s.Single a)
    (hst : next s a = some s') : Inv s' := by
  cases a with
  | call makes =>
    simp only [next] at hst
    split at hst
    · rename_i hrunning
      cases hst
      have hconnecting : Inv { s.getConnection with
          calls := s.getConnection.calls ++ [⟨makes, .connecting⟩] } :=
        inv_addCall (inv_getConnection h) (by rw [getConnection_shutdown, hrunning]) rfl
      rw [getConnection_calls] at hconnecting
      cases makes with
      | sender addressName =>
        rw [begin]
        cases s.addressStore.get addressName with
        | some sender => exact inv_addCall h hrunning rfl
        | none => exact hconnecting
      | receiver queueName => exact hconnecting
    · cases hst
  | connects ok =>
    simp only [next] at hst
    split at hst
    · rename_i hconn
      cases hst
      have hconnections := h.connections
      rw [hconn] at hconnections
      exact { h with connections := hconnections }
    · cases hst
  | connected i =>
    simp only [next] at hst
    split at hst
    · rename_i makes ok hi hconn
      cases hst
      cases ok <;> exact inv_withCall h hi rfl rfl rfl
    · cases hst
  | creates i ok =>
    simp only [next] at hst
    split at hst
    · rename_i makes hi
      cases ok with
      | false =>
        cases hst
        exact inv_withCall h hi rfl rfl rfl
      | true =>
        cases hst
        -- the one step that could create a second sender
        exact inv_creates h hi fun addressName hmakes => hsingle addressName (hmakes ▸ hi)
    · cases hst
  | created i =>
    simp only [next] at hst
    split at hst
    · rename_i makes link hi
      cases hst
      exact inv_keep h hi
    · cases hst
  | sent i receipt =>
    simp only [next] at hst
    split at hst
    · rename_i addressName sender hi
      cases hst
      exact inv_withCall h hi rfl rfl rfl
    · cases hst
  | shutdown =>
    simp only [next] at hst
    split at hst
    · rename_i hready
      cases hst
      -- all calls have settled, so the entries are all that is held
      have hclosed := h.closed
      rw [if_pos hready.1] at hclosed
      exact { h with
        settled := fun _ => List.all_eq_true.1 hready.2
        closed := by simp [hclosed, addressEntries] }
    · cases hst
  | linksClosed =>
    simp only [next] at hst
    split at hst
    · rename_i hclosing
      cases hst
      have hconn := inv_getConnection h
      have hne : s.getConnection.shutdown ≠ .running := by simp [hclosing]
      have hclosed := hconn.closed
      rw [if_neg hne] at hclosed
      exact { hconn with
        settled := fun _ => hconn.settled hne
        closed := hclosed }
    · cases hst
  | disconnect =>
    simp only [next] at hst
    split at hst
    · rename_i hconnecting _
      cases hst
      have hne : s.shutdown ≠ .running := by simp [hconnecting]
      have hclosed := h.closed
      rw [if_neg hne] at hclosed
      exact { h with
        settled := fun _ => h.settled hne
        closed := hclosed }
    · cases hst

/-- Where a sender was created for an address that has one, there are two. -/
theorem single_of_keeps {a : ArtemisAct} (h : Inv s) (hkeeps : s.Keeps a) : s.Single a := by
  rcases a with _ | _ | _ | ⟨i, _ | _⟩ | _ | _ | _ | _ | _ <;> try trivial
  intro addressName hi
  have hnext : machine.next s (.creates i true) = some
      ({ s with links := s.links ++ [Link.sender addressName] }.withCall i
        ⟨.sender addressName, .created s.links.length⟩) := by
    simp [machine, next, hi]
  have hone : (s.links ++ [Link.sender addressName]).count (.sender addressName) ≤ 1 :=
    (hkeeps _ hnext).sender addressName
  have hnot : Link.sender addressName ∉ s.links := by
    rw [List.count_append, List.count_singleton_self] at hone
    exact List.count_eq_zero.1 (by omega)
  constructor
  · cases hget : s.addressStore.get addressName with
    | none => rfl
    | some link => exact absurd (List.mem_of_getElem? (h.stored addressName link hget)) hnot
  · exact fun link hcall => hnot (List.mem_of_getElem? (h.made _ link hcall))

/-- **A run has one sender for an address, and closes every link once, exactly if its steps are
single**: a sender is created only where the address has none. -/
theorem sound_iff (acts : List ArtemisAct) :
    machine.Meets Keeps {} acts ↔ machine.Meets Single {} acts :=
  Machine.meets_iff_meets (J := Inv) (fun _ _ _ => inv_next)
    (fun _ _ h => ⟨single_of_keeps h, fun hsingle _ hst => sound_of_inv (inv_next h hsingle hst)⟩)
    inv_init acts

/-- Two messages to the same address, before either has a sender, make two senders. -/
theorem two_senders : ¬ ∀ acts, machine.Meets Keeps {} acts := by
  intro hall
  have hmeets := hall [.call (.sender .requests), .call (.sender .requests), .connects true,
    .connected 0, .connected 1, .creates 0 true, .creates 1 true]
  have htwo := ((((((hmeets.2 _ rfl).2 _ rfl).2 _ rfl).2 _ rfl).2 _ rfl).2 _ rfl).1 _ rfl
  exact absurd (htwo.sender .requests) (by decide)

end Artemis

end PolymeshRest
