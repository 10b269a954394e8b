import PolymeshRest.Common.Errors
import PolymeshRest.Js.Object
import PolymeshRest.Js.Record
import PolymeshRest.Js.Text
import PolymeshRest.Machine.Calls

/-!
# The address book of the local signer

`LocalSigningService` loads the signers of the configuration, two lists that are paired by
position, and takes further ones from clients.  It keeps their addresses in a plain object under
handles that can be any strings.  What the signing manager makes of a mnemonic is a parameter; an
address is never empty.

* `accounts` : the configuration, `start` : the factory of the module, which lets no service be
  used whose `initialize` was rejected.
* `service` : the calls that change the address book.
* `Signers` : what the address book is for, a table from handles to addresses.
* `Represents` : how the object holds such a table; `represents_of_reaches`.
* `addressBook_spec` : which calls are answered as the table says, and for which handles the
  address is the one in the table.
-/

namespace PolymeshRest

namespace LocalSigning

open Js

/-- An SS58 address. -/
abbrev Address : Type := { text : String // text ≠ "" }

/-! ### The configuration -/

/-- A list of the configuration, which may be missing. -/
def listOf : Option String → List String
  | none => []
  | some value => (split value ',').map trim

/-- The signers and their mnemonics, in the order of the configuration. -/
def pairs (localSigners localMnemonics : Option String) : List (String × Option String) :=
  (listOf localSigners).zipIdx.map fun (signer, index) => (signer, (listOf localMnemonics)[index]?)

/-- `accounts`; the assignment of a string or of `undefined` to `__proto__` does nothing. -/
def accounts (localSigners localMnemonics : Option String) : Record String (Option String) :=
  (pairs localSigners localMnemonics).foldl
    (fun accounts (signer, mnemonic) =>
      if signer = "__proto__" then accounts else accounts.set signer mnemonic)
    .empty

/-! ### The service -/

/-- `addressBook`: a plain object whose values are addresses. -/
structure AddressBook where
  /-- The own properties. -/
  own : String → Option Address
  /-- The assignment of a string to `__proto__` does nothing. -/
  own_proto : own "__proto__" = none

namespace AddressBook

/-- `{}` -/
def empty : AddressBook := ⟨fun _ => none, rfl⟩

/-- `addressBook[handle]`, where `undefined` is `none`. -/
def get (book : AddressBook) (handle : String) : Option (Value Empty) :=
  if handle = "__proto__" then some .objectPrototype
  else
    match book.own handle with
    | some address => some (.string address.1)
    | none => if handle ∈ objectMethods then some (.function handle) else none

/-- `setAddressByHandle` -/
def set (book : AddressBook) (handle : String) (address : Address) : AddressBook :=
  if hhandle : handle = "__proto__" then book
  else
    { own := Function.update book.own handle (some address)
      own_proto := by rw [Function.update_of_ne (Ne.symm hhandle), book.own_proto] }

/-- `getAddressByHandle` -/
def getAddressByHandle (book : AddressBook) (handle : String) :
    Except AppError (Value Empty) :=
  match book.get handle with
  | some address => if address.truthy then .ok address else .error (.notFound handle "signer")
  | none => .error (.notFound handle "signer")

end AddressBook

/-- The text of a value in a template. -/
def textOf : Value Empty → String
  | .string s => s
  | .function "constructor" => "function Object() { [native code] }"
  | .function name => "function " ++ name ++ "() { [native code] }"
  | .objectPrototype => "[object Object]"
  | .other truth => if truth then "true" else "false"

/-- What a call is rejected with. -/
inductive Refusal (E : Type*) where
  | app (error : AppError)
  /-- The signing manager or the SDK has thrown. -/
  | thrown (error : E)

variable {E : Type*}

/-- The calls that change the address book. -/
inductive Call (E : Type*) where
  /-- `initialize(local)`, where `setSigningManager` has ended as `connected`. -/
  | init (connected : Except E Unit)
  | addSigner (handle mnemonic : String)

variable (addAccount : Option String → Except E Address)

/-- The loop of `initialize`, which ends at the first mnemonic that is refused. -/
def load : List (String × Option String) → AddressBook →
    Except (Refusal E) (Option Address) × AddressBook
  | [], book => (.ok none, book)
  | (handle, mnemonic) :: rest, book =>
    match addAccount mnemonic with
    | .error error => (.error (.thrown error), book)
    | .ok address => load rest (book.set handle address)

/-- `addSigner` -/
def addSigner (book : AddressBook) (handle mnemonic : String) :
    Except (Refusal E) (Option Address) × AddressBook :=
  match (book.get handle).filter Value.truthy with
  | some existingAddress =>
    (.error (.app (.conflict (textOf existingAddress) handle)), book)
  | none =>
    match addAccount (some mnemonic) with
    | .error error => (.error (.thrown error), book)
    | .ok address => (.ok (some address), book.set handle address)

/-- The service for a configuration. -/
def service (configured : Record String (Option String)) :
    Service AddressBook (Call E) (Except (Refusal E) (Option Address)) where
  call book
    | .init (.error error) => (.error (.thrown error), book)
    | .init (.ok ()) => load addAccount configured.inOrder book
    | .addSigner handle mnemonic => addSigner addAccount book handle mnemonic

/-- The factory: the service is there once its `initialize` has resolved. -/
def start (configured : Record String (Option String)) : Option AddressBook :=
  match load addAccount configured.inOrder .empty with
  | (.ok _, book) => some book
  | (.error _, _) => none

/-! ### The table of signers -/

/-- The handles of the configuration and those that were added, with their addresses. -/
abbrev Signers : Type := String → Option Address

namespace Signers

/-- The addresses of the mnemonics that are paired with the handles by position, where the last
pair of a handle counts. -/
def configured (localSigners localMnemonics : Option String) : Signers := fun handle =>
  ((pairs localSigners localMnemonics).reverse.lookup handle).bind fun mnemonic =>
    (addAccount mnemonic).toOption

/-- What asking for a handle is to give. -/
def getAddressByHandle (signers : Signers) (handle : String) : Except AppError (Value Empty) :=
  match signers handle with
  | some address => .ok (.string address.1)
  | none => .error (.notFound handle "signer")

/-- What adding a signer is to do. -/
def addSigner (signers : Signers) (handle mnemonic : String) :
    Except (Refusal E) (Option Address) × Signers :=
  match signers handle with
  | some address => (.error (.app (.conflict address.1 handle)), signers)
  | none =>
    match addAccount (some mnemonic) with
    | .error error => (.error (.thrown error), signers)
    | .ok address => (.ok (some address), Function.update signers handle (some address))

/-- The calls, on the table. -/
def service : Service Signers (Call E) (Except (Refusal E) (Option Address)) where
  call signers
    | .init (.error error) => (.error (.thrown error), signers)
    | .init (.ok ()) => (.ok none, signers)
    | .addSigner handle mnemonic => addSigner addAccount signers handle mnemonic

end Signers

/-- Two answers agree, but for the text of an error. -/
def Same : Except (Refusal E) (Option Address) → Except (Refusal E) (Option Address) → Prop
  | .ok address, .ok address' => address = address'
  | .error (.app error), .error (.app error') => error.code = error'.code
  | .error (.thrown error), .error (.thrown error') => error = error'
  | _, _ => False

/-- The names that can be read from the object though no address was stored under them. -/
def inheritedNames : List String := "__proto__" :: objectMethods

/-- A signer is added under a handle that is in the table, or is no inherited name. -/
def Proper (s : AddressBook × Signers) : Call E → Prop
  | .init _ => True
  | .addSigner handle _ => (s.2 handle).isSome = true ∨ handle ∉ inheritedNames

/-- A handle that is in the table or is no inherited name; `__proto__` never gives an address. -/
def Known (signers : Signers) (handle : String) : Prop :=
  handle ≠ "__proto__" ∧ ((signers handle).isSome = true ∨ handle ∉ objectMethods)

/-! ### Loading -/

section

variable {addAccount}

theorem set_own {book : AddressBook} {handle : String} (address : Address)
    (hhandle : handle ≠ "__proto__") :
    (book.set handle address).own = Function.update book.own handle (some address) := by
  rw [AddressBook.set, dif_neg hhandle]

/-- What the loop has assigned; the last of several mnemonics of a handle counts. -/
theorem load_eq_ok {entries : List (String × Option String)} {book book' : AddressBook}
    {answer : Option Address} (hload : load addAccount entries book = (.ok answer, book')) :
    (∀ e ∈ entries, ∃ address, addAccount e.2 = .ok address) ∧
      ∀ handle, handle ≠ "__proto__" → book'.own handle =
        ((entries.reverse.lookup handle).bind fun mnemonic => (addAccount mnemonic).toOption).or
          (book.own handle) := by
  induction entries generalizing book with
  | nil =>
    cases hload
    exact ⟨fun e he => absurd he List.not_mem_nil, fun handle _ => rfl⟩
  | cons e entries ih =>
    obtain ⟨name, mnemonic⟩ := e
    rw [load] at hload
    cases hadd : addAccount mnemonic with
    | error error =>
      rw [hadd] at hload
      cases hload
    | ok address =>
      rw [hadd] at hload
      obtain ⟨hall, hown⟩ := ih hload
      refine ⟨List.forall_mem_cons.2 ⟨⟨address, hadd⟩, hall⟩, fun handle hhandle => ?_⟩
      rw [hown handle hhandle, List.reverse_cons, List.lookup_append]
      cases hlast : entries.reverse.lookup handle with
      | some last =>
        obtain ⟨l₁, l₂, hsplit, -⟩ := List.lookup_eq_some_iff.1 hlast
        have hmem : (handle, last) ∈ entries := by
          rw [← List.mem_reverse, hsplit]
          exact List.mem_append_right _ List.mem_cons_self
        obtain ⟨other, hother⟩ := hall _ hmem
        simp [hother, Except.toOption]
      | none =>
        by_cases hname : handle = name
        · subst hname
          simp [set_own address hhandle, hadd, Except.toOption]
        · have hset : (book.set name address).own handle = book.own handle := by
            by_cases hproto : name = "__proto__"
            · rw [AddressBook.set, dif_pos hproto]
            · rw [set_own address hproto, Function.update_of_ne hname]
          simp [hset, List.lookup_cons, beq_false_of_ne hname]

/-- The accounts are the last pairs of the handles, but for `__proto__`. -/
theorem get_accounts (localSigners localMnemonics : Option String) (handle : String) :
    (accounts localSigners localMnemonics).get handle =
      if handle = "__proto__" then none
      else (pairs localSigners localMnemonics).reverse.lookup handle := by
  have hfoldl : ∀ (entries : List (String × Option String))
      (record : Record String (Option String)),
      (entries.foldl (fun accounts (signer, mnemonic) =>
        if signer = "__proto__" then accounts
        else accounts.set signer mnemonic) record).get handle =
        if handle = "__proto__" then record.get handle
        else (entries.reverse.lookup handle).or (record.get handle) := by
    intro entries
    induction entries with
    | nil => simp
    | cons e entries ih =>
      intro record
      obtain ⟨signer, mnemonic⟩ := e
      rw [List.foldl_cons, ih, List.reverse_cons, List.lookup_append]
      by_cases hhandle : handle = "__proto__"
      · subst hhandle
        by_cases hsigner : signer = "__proto__"
        · simp [hsigner]
        · simp [hsigner, Record.get_set_of_ne (Ne.symm hsigner)]
      · by_cases hsigner : handle = signer
        · subst hsigner
          simp [hhandle, Record.get_set]
        · have hget : (if signer = "__proto__" then record else record.set signer mnemonic).get
              handle = record.get handle := by
            split_ifs
            · rfl
            · exact Record.get_set_of_ne hsigner
          simp [hhandle, hget, List.lookup_cons, beq_false_of_ne hsigner]
  rw [accounts, hfoldl]
  simp

/-- The signers of the configuration are in the book, with the addresses of their mnemonics. -/
def Loaded (addAccount : Option String → Except E Address)
    (accounts : Record String (Option String)) (book : AddressBook) : Prop :=
  ∀ e ∈ accounts.inOrder, ∃ address, addAccount e.2 = .ok address ∧ book.own e.1 = some address

/-- Loading the same signers again changes nothing. -/
theorem load_of_loaded {accounts : Record String (Option String)} {book : AddressBook}
    (h : Loaded addAccount accounts book) :
    load addAccount accounts.inOrder book = (.ok none, book) := by
  have hload : ∀ entries : List (String × Option String),
      (∀ e ∈ entries, ∃ address, addAccount e.2 = .ok address ∧ book.own e.1 = some address) →
        load addAccount entries book = (.ok none, book) := by
    intro entries
    induction entries with
    | nil => exact fun _ => rfl
    | cons e entries ih =>
      intro hall
      obtain ⟨⟨address, hadd, hown⟩, hrest⟩ := List.forall_mem_cons.1 hall
      have hset : book.set e.1 address = book := by
        rw [AddressBook.set]
        split_ifs with hproto
        · rfl
        · obtain ⟨own, hown_proto⟩ := book
          simp only [AddressBook.mk.injEq]
          exact Function.update_eq_self_iff.2 hown.symm
      rw [load, hadd]
      show load addAccount entries (book.set e.1 address) = _
      rw [hset]
      exact ih hrest
  exact hload _ h

/-! ### What the book holds -/

/-- The object holds the table, but for `__proto__`. -/
structure Represents (addAccount : Option String → Except E Address)
    (localSigners localMnemonics : Option String) (s : AddressBook × Signers) : Prop where
  own : ∀ handle, handle ≠ "__proto__" → s.1.own handle = s.2 handle
  loaded : Loaded addAccount (accounts localSigners localMnemonics) s.1

variable {localSigners localMnemonics : Option String} {book : AddressBook}

theorem start_eq_some
    (hstart : start addAccount (accounts localSigners localMnemonics) = some book) :
    ∃ answer, load addAccount (accounts localSigners localMnemonics).inOrder .empty =
      (.ok answer, book) := by
  unfold start at hstart
  split at hstart
  · next answer book' hload =>
    cases hstart
    exact ⟨answer, hload⟩
  · cases hstart

theorem exists_load {entries : List (String × Option String)} (book : AddressBook)
    (hall : ∀ e ∈ entries, (addAccount e.2).toOption.isSome = true) :
    ∃ book', load addAccount entries book = (.ok none, book') := by
  induction entries generalizing book with
  | nil => exact ⟨book, rfl⟩
  | cons e entries ih =>
    obtain ⟨hadd, hrest⟩ := List.forall_mem_cons.1 hall
    rw [load]
    cases haccount : addAccount e.2 with
    | error error =>
      rw [haccount] at hadd
      cases hadd
    | ok address => exact ih _ hrest

theorem exists_start
    (hall : ∀ e ∈ (accounts localSigners localMnemonics).entries,
      (addAccount e.2).toOption.isSome = true) :
    ∃ book, start addAccount (accounts localSigners localMnemonics) = some book := by
  obtain ⟨book, hload⟩ := exists_load .empty fun e he => hall e (Record.inOrder_perm.mem_iff.1 he)
  exact ⟨book, by rw [start, hload]⟩

theorem represents_start
    (hstart : start addAccount (accounts localSigners localMnemonics) = some book) :
    Represents addAccount localSigners localMnemonics
      (book, .configured addAccount localSigners localMnemonics) := by
  obtain ⟨answer, hload⟩ := start_eq_some hstart
  obtain ⟨hall, hown⟩ := load_eq_ok hload
  have htable : ∀ handle, handle ≠ "__proto__" → book.own handle =
      Signers.configured addAccount localSigners localMnemonics handle := by
    intro handle hhandle
    rw [hown handle hhandle, Record.lookup_reverse_inOrder, get_accounts, if_neg hhandle]
    exact Option.or_none
  refine ⟨htable, fun e he => ?_⟩
  obtain ⟨address, hadd⟩ := hall e he
  have hget : (accounts localSigners localMnemonics).get e.1 = some e.2 := Record.mem_inOrder.1 he
  have hproto : e.1 ≠ "__proto__" := by
    intro hproto
    rw [get_accounts, if_pos hproto] at hget
    cases hget
  refine ⟨address, hadd, ?_⟩
  rw [hown e.1 hproto, Record.lookup_reverse_inOrder, hget, Option.bind_some, hadd]
  rfl

/-! ### Reading the book -/

theorem get_of_own {handle : String} {address : Address} (hown : book.own handle = some address) :
    book.get handle = some (.string address.1) := by
  have hproto : handle ≠ "__proto__" := by
    rintro rfl
    rw [book.own_proto] at hown
    cases hown
  rw [AddressBook.get, if_neg hproto, hown]

theorem get_of_own_none {handle : String} (hown : book.own handle = none) :
    book.get handle = none ↔ handle ∉ inheritedNames := by
  unfold AddressBook.get inheritedNames
  rw [hown, List.mem_cons]
  split_ifs with hproto hmethod <;> simp [*]

/-- Every value that can be found counts as true. -/
theorem truthy_of_get {handle : String} {value : Value Empty}
    (hget : book.get handle = some value) : value.truthy = true := by
  unfold AddressBook.get at hget
  by_cases hproto : handle = "__proto__"
  · rw [if_pos hproto] at hget
    cases hget
    rfl
  · rw [if_neg hproto] at hget
    cases hown : book.own handle with
    | some address =>
      rw [hown] at hget
      cases hget
      simp [Value.truthy, address.2]
    | none =>
      rw [hown] at hget
      by_cases hmethod : handle ∈ objectMethods
      · rw [if_pos hmethod] at hget
        cases hget
        rfl
      · rw [if_neg hmethod] at hget
        cases hget

theorem getAddressByHandle_eq_ok_iff {handle : String} {value : Value Empty} :
    book.getAddressByHandle handle = .ok value ↔ book.get handle = some value := by
  unfold AddressBook.getAddressByHandle
  cases hget : book.get handle with
  | none => simp
  | some found => simp [truthy_of_get hget]

/-- **A handle has the address of the table** if it is in it or is no inherited name. -/
theorem getAddressByHandle_iff {s : AddressBook × Signers}
    (h : Represents addAccount localSigners localMnemonics s) (handle : String) :
    s.1.getAddressByHandle handle = s.2.getAddressByHandle handle ↔ Known s.2 handle := by
  by_cases hproto : handle = "__proto__"
  · subst hproto
    have hvalue : s.1.getAddressByHandle "__proto__" = .ok .objectPrototype :=
      getAddressByHandle_eq_ok_iff.2 (if_pos rfl)
    refine iff_of_false (fun heq => ?_) fun hknown => hknown.1 rfl
    rw [hvalue, Signers.getAddressByHandle] at heq
    cases hsigner : s.2 "__proto__" with
    | none =>
      rw [hsigner] at heq
      cases heq
    | some address =>
      rw [hsigner] at heq
      cases heq
  · rw [Known, and_iff_right hproto]
    have hown := h.own handle hproto
    cases hsigner : s.2 handle with
    | some address =>
      rw [hsigner] at hown
      rw [getAddressByHandle_eq_ok_iff.2 (get_of_own hown), Signers.getAddressByHandle, hsigner]
      simp
    | none =>
      rw [hsigner] at hown
      have hmethod : handle ∉ inheritedNames ↔ handle ∉ objectMethods := by
        simp [inheritedNames, hproto]
      rw [Signers.getAddressByHandle, hsigner]
      simp only [Option.isSome_none, Bool.false_eq_true, false_or]
      rw [← hmethod, ← get_of_own_none hown, AddressBook.getAddressByHandle]
      cases hget : s.1.get handle with
      | none => simp
      | some value => simp [truthy_of_get hget]

/-! ### Calls -/

theorem addSigner_of_get {handle mnemonic : String} {value : Value Empty}
    (hget : book.get handle = some value) :
    addSigner addAccount book handle mnemonic =
      (.error (.app (.conflict (textOf value) handle)), book) := by
  simp [addSigner, hget, Option.filter, truthy_of_get hget]

theorem addSigner_of_get_none {handle : String} (mnemonic : String)
    (hget : book.get handle = none) :
    addSigner addAccount book handle mnemonic =
      match addAccount (some mnemonic) with
      | .error error => (.error (.thrown error), book)
      | .ok address => (.ok (some address), book.set handle address) := by
  simp [addSigner, hget]

/-- A call leaves what is found in the book, and the whole of it if it fails. -/
theorem call_cases (h : Loaded addAccount (accounts localSigners localMnemonics) book)
    (call : Call E) :
    ((service addAccount (accounts localSigners localMnemonics)).after book call = book) ∨
      ∃ handle mnemonic address, call = .addSigner handle mnemonic ∧ book.get handle = none ∧
        addAccount (some mnemonic) = .ok address ∧
          (service addAccount (accounts localSigners localMnemonics)).call book call =
            (.ok (some address), book.set handle address) := by
  cases call with
  | init connected =>
    cases connected with
    | error error => exact .inl rfl
    | ok _ =>
      refine .inl ?_
      show (load addAccount (accounts localSigners localMnemonics).inOrder book).2 = book
      rw [load_of_loaded h]
  | addSigner handle mnemonic =>
    cases hget : book.get handle with
    | some value =>
      refine .inl ?_
      show (addSigner addAccount book handle mnemonic).2 = book
      rw [addSigner_of_get hget]
    | none =>
      have hcall : (service addAccount (accounts localSigners localMnemonics)).call book
          (.addSigner handle mnemonic) = _ := addSigner_of_get_none mnemonic hget
      cases hadd : addAccount (some mnemonic) with
      | error error =>
        rw [hadd] at hcall
        exact .inl (congrArg Prod.snd hcall)
      | ok address =>
        rw [hadd] at hcall
        exact .inr ⟨handle, mnemonic, address, rfl, hget, hadd, hcall⟩

theorem loaded_set {handle : String} {address : Address}
    (h : Loaded addAccount (accounts localSigners localMnemonics) book)
    (hget : book.get handle = none) :
    Loaded addAccount (accounts localSigners localMnemonics) (book.set handle address) := by
  intro e he
  obtain ⟨loaded, hadd, hown⟩ := h e he
  have hne : e.1 ≠ handle := by
    rintro rfl
    rw [get_of_own hown] at hget
    cases hget
  have hproto : handle ≠ "__proto__" := by
    rintro rfl
    cases hget
  exact ⟨loaded, hadd, by rw [set_own address hproto, Function.update_of_ne hne, hown]⟩

theorem loaded_after (h : Loaded addAccount (accounts localSigners localMnemonics) book)
    (call : Call E) :
    Loaded addAccount (accounts localSigners localMnemonics)
      ((service addAccount (accounts localSigners localMnemonics)).after book call) := by
  rcases call_cases h call with hsame | ⟨handle, mnemonic, address, -, hget, -, hcall⟩
  · rwa [hsame]
  · rw [Service.after, hcall]
    exact loaded_set h hget

/-- **One call** leaves every address that is found, and the whole book if it fails. -/
theorem keeps (h : Loaded addAccount (accounts localSigners localMnemonics) book) (call : Call E) :
    (∀ handle value, book.getAddressByHandle handle = .ok value →
      ((service addAccount (accounts localSigners localMnemonics)).after book
        call).getAddressByHandle handle = .ok value) ∧
    (∀ error, (service addAccount (accounts localSigners localMnemonics)).answer book call =
      .error error →
        (service addAccount (accounts localSigners localMnemonics)).after book call = book) := by
  rcases call_cases h call with hsame | ⟨handle, mnemonic, address, -, hget, -, hcall⟩
  · rw [hsame]
    exact ⟨fun _ _ hvalue => hvalue, fun _ _ => rfl⟩
  · rw [Service.after, Service.answer, hcall]
    constructor
    · intro other value hvalue
      rw [getAddressByHandle_eq_ok_iff] at hvalue ⊢
      have hne : other ≠ handle := by
        rintro rfl
        rw [hget] at hvalue
        cases hvalue
      have hproto : handle ≠ "__proto__" := by
        rintro rfl
        cases hget
      unfold AddressBook.get at hvalue ⊢
      rwa [set_own address hproto, Function.update_of_ne hne]
    · intro error herror
      cases herror

theorem get_eq_none_iff {s : AddressBook × Signers}
    (h : Represents addAccount localSigners localMnemonics s) (handle : String) :
    s.1.get handle = none ↔ s.2 handle = none ∧ handle ∉ inheritedNames := by
  by_cases hproto : handle = "__proto__"
  · subst hproto
    have hget : s.1.get "__proto__" = some .objectPrototype := if_pos rfl
    simp [hget, inheritedNames]
  · have hown := h.own handle hproto
    cases hsigner : s.2 handle with
    | some address =>
      rw [hsigner] at hown
      simp [get_of_own hown]
    | none =>
      rw [hsigner] at hown
      simp [get_of_own_none hown]

/-- **A call is answered as the table says** if it is a proper one. -/
theorem same_iff {s : AddressBook × Signers}
    (h : Represents addAccount localSigners localMnemonics s) (call : Call E) :
    Service.Answers (service addAccount (accounts localSigners localMnemonics))
      (Signers.service addAccount) Same s call ↔ Proper s call := by
  cases call with
  | init connected =>
    refine iff_of_true ?_ trivial
    cases connected with
    | error error => exact rfl
    | ok _ =>
      show Same (load addAccount (accounts localSigners localMnemonics).inOrder s.1).1 (.ok none)
      rw [load_of_loaded h.loaded]
      exact rfl
  | addSigner handle mnemonic =>
    show Same (addSigner addAccount s.1 handle mnemonic).1
      (Signers.addSigner addAccount s.2 handle mnemonic).1 ↔ _
    have hnone := get_eq_none_iff h handle
    cases hget : s.1.get handle with
    | none =>
      obtain ⟨hsigner, hinherited⟩ := hnone.1 hget
      refine iff_of_true ?_ (.inr hinherited)
      rw [addSigner_of_get_none mnemonic hget, Signers.addSigner, hsigner]
      cases addAccount (some mnemonic) with
      | error error => exact rfl
      | ok address => exact rfl
    | some value =>
      rw [addSigner_of_get hget, Signers.addSigner, Proper]
      cases hsigner : s.2 handle with
      | some address => exact iff_of_true rfl (.inl rfl)
      | none =>
        have hinherited : ¬handle ∉ inheritedNames := by
          intro hnot
          rw [hnone.2 ⟨hsigner, hnot⟩] at hget
          cases hget
        refine iff_of_false ?_ (by simp [hinherited])
        cases addAccount (some mnemonic) with
        | error error => exact id
        | ok address => exact id

/-- **One proper call** is made in the book and in the table alike. -/
theorem represents_after {s : AddressBook × Signers}
    (h : Represents addAccount localSigners localMnemonics s) {call : Call E}
    (hproper : Proper s call) :
    Represents addAccount localSigners localMnemonics
      ((service addAccount (accounts localSigners localMnemonics)).after s.1 call,
        (Signers.service addAccount).after s.2 call) := by
  refine ⟨?_, loaded_after h.loaded call⟩
  cases call with
  | init connected =>
    have hsame : (service addAccount (accounts localSigners localMnemonics)).after s.1
        (.init connected) = s.1 := by
      rcases call_cases h.loaded (.init connected) with hsame | ⟨_, _, _, heq, -⟩
      · exact hsame
      · cases heq
    rw [hsame]
    cases connected with
    | error error => exact h.own
    | ok _ => exact h.own
  | addSigner handle mnemonic =>
    show ∀ other, other ≠ "__proto__" → (addSigner addAccount s.1 handle mnemonic).2.own other =
      (Signers.addSigner addAccount s.2 handle mnemonic).2 other
    have hnone := get_eq_none_iff h handle
    cases hget : s.1.get handle with
    | none =>
      -- nothing is found: the table has no signer either, and the name is not inherited
      obtain ⟨hsigner, hinherited⟩ := hnone.1 hget
      have hproto : handle ≠ "__proto__" := fun heq => hinherited (heq ▸ List.mem_cons_self)
      rw [addSigner_of_get_none mnemonic hget, Signers.addSigner, hsigner]
      cases addAccount (some mnemonic) with
      | error error => exact h.own
      | ok address =>
        intro other hother
        show (s.1.set handle address).own other = Function.update s.2 handle (some address) other
        rw [set_own address hproto]
        by_cases heq : other = handle
        · rw [heq, Function.update_self, Function.update_self]
        · rw [Function.update_of_ne heq, Function.update_of_ne heq, h.own other hother]
    | some value =>
      -- something is found: since the call is proper, it is in the table
      have hsigner : (s.2 handle).isSome = true := by
        rcases hproper with hsome | hnot
        · exact hsome
        · rw [← Option.ne_none_iff_isSome]
          intro hsigner
          rw [hnone.2 ⟨hsigner, hnot⟩] at hget
          cases hget
      obtain ⟨address, hsigner⟩ := Option.isSome_iff_exists.1 hsigner
      rw [addSigner_of_get hget, Signers.addSigner, hsigner]
      exact h.own

end

/-! ### Runs -/

/-- **The address book.**  Of a service that was started: the calls of a run are answered as the
table says exactly if each of them is a proper one; in every state of such a run a handle has the
address of the table exactly if it is known; and no call of any run changes an address that is
found, or anything if it fails. -/
theorem addressBook_spec {localSigners localMnemonics : Option String} {book : AddressBook}
    (hstart : start addAccount (accounts localSigners localMnemonics) = some book) :
    let code := service addAccount (accounts localSigners localMnemonics)
    let both := code.beside (Signers.service addAccount)
    let started := (book, Signers.configured addAccount localSigners localMnemonics)
    (∀ calls, both.Meets (code.Answers (Signers.service addAccount) Same) started calls ↔
      both.Meets Proper started calls) ∧
    (∀ s, both.Reaches Proper started s → ∀ handle,
      s.1.getAddressByHandle handle = s.2.getAddressByHandle handle ↔ Known s.2 handle) ∧
    ∀ s call, both.Reaches Machine.Unrestricted started s →
      (∀ handle value, s.1.getAddressByHandle handle = .ok value →
        (code.after s.1 call).getAddressByHandle handle = .ok value) ∧
      ∀ error, code.answer s.1 call = .error error → code.after s.1 call = s.1 := by
  intro code both started
  have hrepresents : Represents addAccount localSigners localMnemonics started :=
    represents_start hstart
  have hstep : ∀ s call s', Represents addAccount localSigners localMnemonics s →
      Proper s call → both.next s call = some s' →
        Represents addAccount localSigners localMnemonics s' := by
    intro s call s' h hproper hnext
    cases hnext
    exact represents_after h hproper
  refine ⟨fun calls => ?_, fun s hs handle => ?_, fun s call hs => ?_⟩
  · exact Machine.meets_iff_meets hstep (fun s call h => same_iff h call) hrepresents calls
  · exact getAddressByHandle_iff (hs.invariant hrepresents hstep) handle
  · refine keeps (hs.invariant (I := fun s => Loaded addAccount _ s.1) hrepresents.loaded ?_) call
    intro s call s' h _ hnext
    cases hnext
    exact loaded_after h call

/-- A manager that knows two mnemonics. -/
def twoAccounts : Option String → Except String Address
  | some "//Alice" => .ok ⟨"15oF4uVJwmo4TdGW7VfQxNLavjCXviqxT9S1MgbjMNHr6Sp5", by decide⟩
  | some "//Bob" => .ok ⟨"14E5nqKAp3oAJcmzgZhUD2RcptBeUBScxKHgJKU4HPNcKVf3", by decide⟩
  | _ => .error "Unable to add the account"

/-- The handle of the configuration and the one that was added are both found. -/
theorem addressBook_twoAccounts : ∃ book,
    start twoAccounts (accounts (some "Alice") (some "//Alice")) = some book ∧
      (addSigner twoAccounts book "Bob" "//Bob").2.getAddressByHandle "Alice" =
        .ok (.string "15oF4uVJwmo4TdGW7VfQxNLavjCXviqxT9S1MgbjMNHr6Sp5") ∧
      (addSigner twoAccounts book "Bob" "//Bob").2.getAddressByHandle "Bob" =
        .ok (.string "14E5nqKAp3oAJcmzgZhUD2RcptBeUBScxKHgJKU4HPNcKVf3") := by
  obtain ⟨book, hstart⟩ : ∃ book, start twoAccounts
      (accounts (some "Alice") (some "//Alice")) = some book := exists_start (by decide)
  obtain ⟨-, hreads, -⟩ := addressBook_spec twoAccounts hstart
  have hproper : Proper (book, Signers.configured twoAccounts (some "Alice") (some "//Alice"))
      (.addSigner "Bob" "//Bob" : Call String) := .inr (by decide)
  have hadded := hreads _ (.single hproper rfl)
  have halice : (Signers.addSigner twoAccounts (Signers.configured twoAccounts (some "Alice")
      (some "//Alice")) "Bob" "//Bob").2.getAddressByHandle "Alice" =
        .ok (.string "15oF4uVJwmo4TdGW7VfQxNLavjCXviqxT9S1MgbjMNHr6Sp5") := by decide
  have hbob : (Signers.addSigner twoAccounts (Signers.configured twoAccounts (some "Alice")
      (some "//Alice")) "Bob" "//Bob").2.getAddressByHandle "Bob" =
        .ok (.string "14E5nqKAp3oAJcmzgZhUD2RcptBeUBScxKHgJKU4HPNcKVf3") := by decide
  exact ⟨book, hstart, ((hadded "Alice").2 ⟨by decide, .inr (by decide)⟩).trans halice,
    ((hadded "Bob").2 ⟨by decide, .inr (by decide)⟩).trans hbob⟩

/-- Without any further signer `constructor` has no address in the table, but it is found, and it
conflicts. -/
theorem constructor_found : ∃ book,
    start twoAccounts (accounts (some "Alice") (some "//Alice")) = some book ∧
      Signers.configured twoAccounts (some "Alice") (some "//Alice") "constructor" = none ∧
      book.getAddressByHandle "constructor" = .ok (.function "constructor") ∧
      (addSigner twoAccounts book "constructor" "//Bob").1 = .error (.app (.conflict
        "function Object() { [native code] }" "constructor")) := by
  obtain ⟨book, hstart⟩ : ∃ book, start twoAccounts
      (accounts (some "Alice") (some "//Alice")) = some book := exists_start (by decide)
  have hnone : Signers.configured twoAccounts (some "Alice") (some "//Alice") "constructor" =
      none := by decide
  have hown : book.own "constructor" = none :=
    ((represents_start hstart).own "constructor" (by decide)).trans hnone
  have hget : book.get "constructor" = some (.function "constructor") := by
    rw [AddressBook.get, if_neg (by decide), hown]
    decide
  refine ⟨book, hstart, hnone, getAddressByHandle_eq_ok_iff.2 hget, ?_⟩
  rw [addSigner_of_get hget]
  rfl

end LocalSigning

end PolymeshRest
