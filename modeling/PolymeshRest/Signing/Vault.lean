import PolymeshRest.Common.Errors
import PolymeshRest.Data.Lists
import PolymeshRest.Js.Text

/-!
# Handles of the Vault signer

The keys of a vault have a name, which can be any string, and a version.  `VaultSigningService`
joins the two with a `-` between them and takes what it gets as the handle of the key.  A handle is
looked up among those of all keys, and the first match is taken.

* `getAddressByHandle`, `logKeys` : the methods of the service, with the lines they log.
* `keyName_inj` : a handle is that of one name and one version, also where a name ends with what
  looks like a version.
* `getAddressByHandle_of_distinct` : the keys of a vault are found under the handles that are
  logged for them, and nothing else is found.
-/

namespace PolymeshRest

namespace VaultSigning

/-- `VaultKey` -/
structure VaultKey where
  name : String
  /-- A number is written in decimal notation. -/
  version : ℕ
  address : String
  deriving DecidableEq, Repr

/-- What the vault knows a key by. -/
def VaultKey.id (key : VaultKey) : String × ℕ := (key.name, key.version)

/-- The handle of a key. -/
def VaultKey.keyName (key : VaultKey) : String := key.name ++ "-" ++ key.version.repr

/-- `logKey`: the line that is logged. -/
def logKey (handle address : String) : String :=
  "Key \"" ++ handle ++ "\" with address \"" ++ address ++ "\" was loaded"

/-- `logKeys`, for the keys that the vault has listed. -/
def logKeys (keys : List VaultKey) : List String :=
  keys.map fun key => logKey key.keyName key.address

/-- `throwNoSigner` -/
def throwNoSigner (handle : String) : Except AppError String := .error (.notFound handle "signer")

/-- `getAddressByHandle`, for the keys that the vault has listed. -/
def getAddressByHandle (keys : List VaultKey) (handle : String) :
    Except AppError String × List String :=
  match keys.find? fun key => key.keyName = handle with
  | some key => (.ok key.address, [logKey handle key.address])
  | none => (throwNoSigner handle, [])

/-- No two keys have the same name and the same version. -/
def Distinct (keys : List VaultKey) : Prop := (keys.map VaultKey.id).Nodup

instance (keys : List VaultKey) : Decidable (Distinct keys) :=
  inferInstanceAs (Decidable (keys.map VaultKey.id).Nodup)

variable {keys listed : List VaultKey}

/-! ### Handles -/

theorem separator_notMem_version (version : ℕ) : '-' ∉ version.repr.toList := by
  intro hmem
  exact repr_ne_of_not_digit hmem (by decide) version rfl

/-- The last `-` of a handle is the one in front of the version. -/
theorem keyName_inj {key other : VaultKey} : key.keyName = other.keyName ↔ key.id = other.id := by
  constructor
  · intro h
    obtain ⟨hname, hversion⟩ := append_separator_inj (separator_notMem_version key.version)
      (separator_notMem_version other.version) h
    exact Prod.ext hname (injective_repr hversion)
  · intro h
    obtain ⟨hname, hversion⟩ := Prod.mk.inj h
    rw [VaultKey.keyName, VaultKey.keyName, hname, hversion]

theorem Distinct.nodup_keyName (h : Distinct keys) : (keys.map VaultKey.keyName).Nodup := by
  rw [Distinct, List.Nodup, List.pairwise_map] at h
  rw [List.Nodup, List.pairwise_map]
  exact h.imp fun hne => keyName_inj.not.2 hne

theorem Distinct.perm (h : Distinct keys) (horder : listed.Perm keys) : Distinct listed :=
  (horder.map VaultKey.id).nodup_iff.2 h

/-! ### Looking up -/

theorem getAddressByHandle_of_mem (h : Distinct keys) {key : VaultKey} (hkey : key ∈ keys) :
    getAddressByHandle keys key.keyName = (.ok key.address, [logKey key.keyName key.address]) := by
  have hfind : (keys.find? fun other => other.keyName = key.keyName) = some key :=
    (find?_key_eq_some_iff h.nodup_keyName).2 ⟨hkey, rfl⟩
  rw [getAddressByHandle, hfind]

theorem getAddressByHandle_of_unknown {handle : String}
    (h : ∀ key ∈ keys, key.keyName ≠ handle) :
    getAddressByHandle keys handle = (throwNoSigner handle, []) := by
  have hfind : (keys.find? fun key => key.keyName = handle) = none :=
    List.find?_eq_none.2 fun key hkey => by simpa using h key hkey
  rw [getAddressByHandle, hfind]

/-- **The keys of a vault**, listed in any order, are found under the handles that are logged for
them; a string that is no handle of theirs has no signer. -/
theorem getAddressByHandle_of_distinct (hdistinct : Distinct keys) (horder : listed.Perm keys) :
    (∀ key ∈ keys, logKey key.keyName key.address ∈ logKeys listed ∧
      (getAddressByHandle listed key.keyName).1 = .ok key.address) ∧
      ∀ handle, (∀ key ∈ keys, key.keyName ≠ handle) →
        (getAddressByHandle listed handle).1 = .error (.notFound handle "signer") := by
  constructor
  · intro key hkey
    have hlisted : key ∈ listed := horder.mem_iff.2 hkey
    refine ⟨List.mem_map_of_mem hlisted, ?_⟩
    rw [getAddressByHandle_of_mem (hdistinct.perm horder) hlisted]
  · intro handle hunknown
    have hlisted : ∀ key ∈ listed, key.keyName ≠ handle := fun key hkey =>
      hunknown key (horder.mem_iff.1 hkey)
    rw [getAddressByHandle_of_unknown hlisted]
    rfl

/-- The keys `alice-1` in version 2 and `alice` in version 12, listed the other way round. -/
theorem getAddressByHandle_alice :
    (getAddressByHandle [⟨"alice", 12, "DEF"⟩, ⟨"alice-1", 2, "ABC"⟩] "alice-1-2").1 =
        .ok "ABC" ∧
      (getAddressByHandle [⟨"alice", 12, "DEF"⟩, ⟨"alice-1", 2, "ABC"⟩] "alice-1").1 =
        .error (.notFound "alice-1" "signer") := by
  have hdistinct : Distinct [⟨"alice-1", 2, "ABC"⟩, ⟨"alice", 12, "DEF"⟩] := by decide
  have h := getAddressByHandle_of_distinct hdistinct (List.Perm.swap _ _ [])
  exact ⟨(h.1 ⟨"alice-1", 2, "ABC"⟩ (by simp)).2, h.2 "alice-1" (by decide)⟩

end VaultSigning

end PolymeshRest
