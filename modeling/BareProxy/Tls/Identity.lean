import BareProxy.Base.Permutation
import BareProxy.Base.Stream
import BareProxy.Base.Text
import BareProxy.P256.Residue

/-!
# Choosing a certificate

The server keeps identities, each a certificate chain with its key and the DNS names it is for. No name stands twice, in
any case, so at most one identity has the name a client asks for, and at most one has the wildcard above it. Which
identity is chosen depends neither on their order nor on the case of the names.
-/

namespace BareProxy.Tls

open P256

structure TlsIdentity where
  certificateChain : List Bytes
  signingKey : Scalar
  dnsNames : List Bytes
  deriving DecidableEq

def dnsNameMatches (presentedName serverName : Bytes) : Bool :=
  if serverName.isEmpty || !isAscii serverName || serverName.getLast? = some 46 then false
  else if eqIgnoreAsciiCase presentedName serverName then true
  else match presentedName with
    | 42 :: 46 :: suffix =>
      match splitOnce (ascii ".") serverName with
      | none => false
      | some (leftmostLabel, serverSuffix) => !leftmostLabel.isEmpty && eqIgnoreAsciiCase serverSuffix suffix
    | _ => false

namespace TlsIdentity

def matchesServerName (identity : TlsIdentity) (serverName : Bytes) : Bool :=
  identity.dnsNames.any fun dnsName => dnsNameMatches dnsName serverName

def matchesServerNameExactly (identity : TlsIdentity) (serverName : Bytes) : Bool :=
  identity.dnsNames.any fun dnsName => !(ascii "*.").isPrefixOf dnsName && eqIgnoreAsciiCase dnsName serverName

end TlsIdentity

/-! ### The store -/

def invalidInput (message : String) : IoError := ⟨.invalidInput, message⟩

/-- One turn of the inner loop of `TlsIdentityStore::new`, with the set of names so far. -/
def insertDnsName (presentedNames : List Bytes) (dnsName : Bytes) : Except IoError (List Bytes) :=
  let normalized := toAsciiLowercase dnsName
  if presentedNames.contains normalized then
    .error (invalidInput ("multiple TLS identities claim DNS name " ++
      (String.fromUTF8? ⟨normalized.toArray⟩).getD ""))
  else .ok (presentedNames ++ [normalized])

def insertDnsNames (presentedNames : List Bytes) (identity : TlsIdentity) : Except IoError (List Bytes) :=
  identity.dnsNames.foldlM insertDnsName presentedNames

/-- Names that all go into one set are distinct, without case. -/
theorem foldlM_insertDnsName_iff {names presentedNames after : List Bytes} (hpresented : presentedNames.Nodup) :
    names.foldlM insertDnsName presentedNames = .ok after ↔
      (presentedNames ++ names.map toAsciiLowercase).Nodup ∧
        after = presentedNames ++ names.map toAsciiLowercase := by
  induction names generalizing presentedNames with
  | nil => simp [hpresented, eq_comm]
  | cons name names ih =>
    rw [List.foldlM_cons, insertDnsName, List.map_cons]
    cases hcontains : presentedNames.contains (toAsciiLowercase name) with
    | true =>
      rw [if_pos rfl, error_bind]
      refine ⟨fun h => (by cases h), fun h => ?_⟩
      have hmem := List.contains_iff_mem.1 hcontains
      exact absurd rfl ((List.nodup_append.1 h.1).2.2 _ hmem _ List.mem_cons_self)
    | false =>
      have hnew : toAsciiLowercase name ∉ presentedNames := by
        rw [← List.contains_iff_mem, hcontains]
        exact Bool.false_ne_true
      have hnext : (presentedNames ++ [toAsciiLowercase name]).Nodup := by
        rw [List.nodup_append_comm, List.singleton_append, List.nodup_cons]
        exact ⟨hnew, hpresented⟩
      rw [if_neg Bool.false_ne_true, ok_bind, ih hnext, List.append_assoc, List.singleton_append]

theorem insertDnsNames_iff {identities : List TlsIdentity} {after : List Bytes} :
    identities.foldlM insertDnsNames [] = .ok after ↔
      ((identities.flatMap TlsIdentity.dnsNames).map toAsciiLowercase).Nodup ∧
        after = (identities.flatMap TlsIdentity.dnsNames).map toAsciiLowercase := by
  have hfold : identities.foldlM insertDnsNames [] =
      (identities.flatMap TlsIdentity.dnsNames).foldlM insertDnsName [] :=
    foldlM_flatMap insertDnsName TlsIdentity.dnsNames identities []
  rw [hfold, foldlM_insertDnsName_iff List.nodup_nil, List.nil_append]

structure TlsIdentityStore where
  identities : List TlsIdentity
  ne_nil : identities ≠ []
  distinct : ((identities.flatMap TlsIdentity.dnsNames).map toAsciiLowercase).Nodup

namespace TlsIdentityStore

def new (identities : List TlsIdentity) : Except IoError TlsIdentityStore :=
  if hne : identities = [] then .error (invalidInput "TLS identity store must contain at least one identity")
  else match hnames : identities.foldlM insertDnsNames [] with
    | .error error => .error error
    | .ok _ => .ok { identities, ne_nil := hne, distinct := (insertDnsNames_iff.1 hnames).1 }

def select (store : TlsIdentityStore) (serverName : Bytes) : Option TlsIdentity :=
  (store.identities.find? fun identity => identity.matchesServerNameExactly serverName).or
    (store.identities.find? fun identity => identity.matchesServerName serverName)

theorem new_iff {identities : List TlsIdentity} {store : TlsIdentityStore} :
    new identities = .ok store ↔ store.identities = identities := by
  unfold new
  constructor
  · intro h
    split at h
    · cases h
    · split at h
      · cases h
      · cases h
        rfl
  · rintro rfl
    rw [dif_neg store.ne_nil]
    split
    · rename_i error hnames
      rw [insertDnsNames_iff.2 ⟨store.distinct, rfl⟩] at hnames
      cases hnames
    · rfl

end TlsIdentityStore

/-! ### Which names match -/

/-- A name that a client can ask for: the names of DNS are ASCII, and the dot at the end is not sent. -/
def IsServerName (serverName : Bytes) : Prop :=
  serverName ≠ [] ∧ isAscii serverName = true ∧ serverName.getLast? ≠ some 46

/-- A wildcard `*.suffix`, and a name with exactly one label in front of the suffix. -/
def CoversLabel (presentedName serverName : Bytes) : Prop :=
  ∃ suffix label serverSuffix, presentedName = ascii "*." ++ suffix ∧ serverName = label ++ 46 :: serverSuffix ∧
    label ≠ [] ∧ 46 ∉ label ∧ eqIgnoreAsciiCase serverSuffix suffix = true

/-- The name itself, in any case, or a wildcard over it. -/
def Presents (presentedName serverName : Bytes) : Prop :=
  eqIgnoreAsciiCase presentedName serverName = true ∨ CoversLabel presentedName serverName

theorem dnsNameMatches_iff {presentedName serverName : Bytes} :
    dnsNameMatches presentedName serverName = true ↔ IsServerName serverName ∧ Presents presentedName serverName := by
  unfold dnsNameMatches
  constructor
  · intro h
    split at h
    · cases h
    · rename_i hname
      simp only [Bool.or_eq_true, not_or, List.isEmpty_iff, Bool.not_eq_true', Bool.not_eq_false,
        decide_eq_true_eq] at hname
      refine ⟨⟨hname.1.1, hname.1.2, hname.2⟩, ?_⟩
      split at h
      · rename_i heq
        exact Or.inl heq
      · split at h
        · rename_i suffix hdifferent
          split at h
          · cases h
          · rename_i label serverSuffix hsplit
            obtain ⟨hserver, hdot⟩ := splitOnce_byte_iff.1 hsplit
            rw [Bool.and_eq_true, Bool.not_eq_true', List.isEmpty_eq_false_iff] at h
            exact Or.inr ⟨suffix, label, serverSuffix, rfl, hserver, h.1, hdot, h.2⟩
        · cases h
  · intro h
    obtain ⟨⟨hne, hascii, hlast⟩, hpresents⟩ := h
    rw [if_neg (by simp [hne, hascii, hlast])]
    rcases hpresents with heq | ⟨suffix, label, serverSuffix, rfl, rfl, hlabel, hdot, hsuffix⟩
    · rw [if_pos heq]
    · have hsplit : splitOnce (ascii ".") (label ++ 46 :: serverSuffix) = some (label, serverSuffix) :=
        splitOnce_byte_iff.2 ⟨rfl, hdot⟩
      split
      · rfl
      · show (match splitOnce (ascii ".") (label ++ 46 :: serverSuffix) with
          | none => false
          | some (leftmostLabel, serverSuffix) =>
            !leftmostLabel.isEmpty && eqIgnoreAsciiCase serverSuffix suffix) = true
        rw [hsplit]
        dsimp only
        rw [hsuffix, List.isEmpty_eq_false_iff.2 hlabel]
        rfl

/-- A wildcard that is the name itself covers the label `*`. -/
theorem coversLabel_of_eq {presentedName serverName : Bytes} (heq : eqIgnoreAsciiCase presentedName serverName = true)
    (hwildcard : ascii "*." <+: presentedName) : CoversLabel presentedName serverName := by
  have hbytes : ∀ b, (toLower b = toLower 42 → b = 42) ∧ (toLower b = toLower 46 → b = 46) := by
    apply byte_forall
    decide +kernel
  obtain ⟨suffix, rfl⟩ := hwildcard
  have hlower := eqIgnoreAsciiCase_iff.1 heq
  rcases serverName with _ | ⟨star, _ | ⟨dot, serverSuffix⟩⟩
  · cases hlower
  · cases (List.cons.inj hlower).2
  · obtain ⟨hstar, hrest⟩ := List.cons.inj hlower
    obtain ⟨hdot, hsuffix⟩ := List.cons.inj hrest
    rw [(hbytes star).1 hstar.symm, (hbytes dot).2 hdot.symm]
    exact ⟨suffix, [42], serverSuffix, rfl, rfl, by simp, by decide, eqIgnoreAsciiCase_iff.2 hsuffix.symm⟩

/-- Two wildcards over one name are the same in some case. -/
theorem CoversLabel.unique {left right serverName : Bytes} (hleft : CoversLabel left serverName)
    (hright : CoversLabel right serverName) : eqIgnoreAsciiCase left right = true := by
  obtain ⟨suffix, label, serverSuffix, rfl, hserver, -, hdot, hsuffix⟩ := hleft
  obtain ⟨suffix', label', serverSuffix', rfl, hserver', -, hdot', hsuffix'⟩ := hright
  have hsplit : splitOnce (ascii ".") serverName = some (label, serverSuffix) := splitOnce_byte_iff.2 ⟨hserver, hdot⟩
  have hsplit' : splitOnce (ascii ".") serverName = some (label', serverSuffix') :=
    splitOnce_byte_iff.2 ⟨hserver', hdot'⟩
  rw [hsplit] at hsplit'
  cases hsplit'
  rw [eqIgnoreAsciiCase_iff] at hsuffix hsuffix' ⊢
  have happend : ∀ suffix, toAsciiLowercase (ascii "*." ++ suffix) = ascii "*." ++ toAsciiLowercase suffix :=
    fun suffix => List.map_append
  rw [happend, happend, ← hsuffix, ← hsuffix']

/-! ### Which identity is chosen -/

namespace TlsIdentity

theorem matchesServerName_iff {identity : TlsIdentity} {serverName : Bytes} :
    identity.matchesServerName serverName = true ↔
      IsServerName serverName ∧ ∃ dnsName ∈ identity.dnsNames, Presents dnsName serverName := by
  rw [matchesServerName, List.any_eq_true]
  simp only [dnsNameMatches_iff]
  constructor
  · intro h
    obtain ⟨dnsName, hmem, hserver, hpresents⟩ := h
    exact ⟨hserver, dnsName, hmem, hpresents⟩
  · intro h
    obtain ⟨hserver, dnsName, hmem, hpresents⟩ := h
    exact ⟨dnsName, hmem, hserver, hpresents⟩

theorem matchesServerNameExactly_iff {identity : TlsIdentity} {serverName : Bytes} :
    identity.matchesServerNameExactly serverName = true ↔
      ∃ dnsName ∈ identity.dnsNames, ¬ascii "*." <+: dnsName ∧ eqIgnoreAsciiCase dnsName serverName = true := by
  rw [matchesServerNameExactly, List.any_eq_true]
  simp only [Bool.and_eq_true, Bool.not_eq_true', ← Bool.not_eq_true, List.isPrefixOf_iff_prefix]

end TlsIdentity

namespace TlsIdentityStore

variable {store : TlsIdentityStore} {left right : TlsIdentity} {serverName : Bytes}

/-- A name belongs to one identity. -/
theorem eq_of_dnsName (hleft : left ∈ store.identities) (hright : right ∈ store.identities) {name other : Bytes}
    (hname : name ∈ left.dnsNames) (hother : other ∈ right.dnsNames) (heq : eqIgnoreAsciiCase name other = true) :
    left = right := by
  have hnodup := store.distinct
  rw [List.map_flatMap, List.nodup_flatMap] at hnodup
  have hsymm : Std.Symm (Function.onFun List.Disjoint fun identity : TlsIdentity =>
      identity.dnsNames.map toAsciiLowercase) := ⟨fun _ _ h => h.symm⟩
  by_contra hne
  have hdisjoint := hnodup.2.forall hleft hright hne
  apply hdisjoint (List.mem_map_of_mem hname)
  rw [eqIgnoreAsciiCase_iff.1 heq]
  exact List.mem_map_of_mem hother

theorem eq_of_matchesExactly (hleft : left ∈ store.identities) (hright : right ∈ store.identities)
    (hmatches : left.matchesServerNameExactly serverName = true)
    (hother : right.matchesServerNameExactly serverName = true) : left = right := by
  obtain ⟨name, hname, -, heq⟩ := TlsIdentity.matchesServerNameExactly_iff.1 hmatches
  obtain ⟨other, hmem, -, heq'⟩ := TlsIdentity.matchesServerNameExactly_iff.1 hother
  apply eq_of_dnsName hleft hright hname hmem
  rw [eqIgnoreAsciiCase_congr heq, eqIgnoreAsciiCase_comm, heq']

/-- Without an exact name, the names that match are wildcards. -/
theorem coversLabel_of_presents {identity : TlsIdentity}
    (hexact : identity.matchesServerNameExactly serverName = false) {dnsName : Bytes}
    (hname : dnsName ∈ identity.dnsNames) (hpresents : Presents dnsName serverName) :
    CoversLabel dnsName serverName := by
  rcases hpresents with heq | hcovers
  · apply coversLabel_of_eq heq
    by_contra hwildcard
    have hmatches := TlsIdentity.matchesServerNameExactly_iff.2 ⟨dnsName, hname, hwildcard, heq⟩
    rw [hexact] at hmatches
    cases hmatches
  · exact hcovers

theorem eq_of_matches (hleft : left ∈ store.identities) (hright : right ∈ store.identities)
    (hexact : ∀ identity ∈ store.identities, identity.matchesServerNameExactly serverName = false)
    (hmatches : left.matchesServerName serverName = true) (hother : right.matchesServerName serverName = true) :
    left = right := by
  obtain ⟨-, name, hname, hpresents⟩ := TlsIdentity.matchesServerName_iff.1 hmatches
  obtain ⟨-, other, hmem, hpresents'⟩ := TlsIdentity.matchesServerName_iff.1 hother
  apply eq_of_dnsName hleft hright hname hmem
  exact (coversLabel_of_presents (hexact left hleft) hname hpresents).unique
    (coversLabel_of_presents (hexact right hright) hmem hpresents')

/-- The two passes of a choice. -/
theorem select_cases (store : TlsIdentityStore) (serverName : Bytes) :
    (∃ identity ∈ store.identities, identity.matchesServerNameExactly serverName = true ∧
      store.select serverName = some identity) ∨
    ((∀ identity ∈ store.identities, identity.matchesServerNameExactly serverName = false) ∧
      store.select serverName = store.identities.find? fun identity => identity.matchesServerName serverName) := by
  rw [select]
  cases hfind : store.identities.find? fun identity => identity.matchesServerNameExactly serverName with
  | some identity =>
    left
    have hmatches := List.find?_some hfind
    exact ⟨identity, List.mem_of_find?_eq_some hfind, hmatches, rfl⟩
  | none =>
    right
    refine ⟨fun identity hmem => ?_, rfl⟩
    have hnone := List.find?_eq_none.1 hfind identity hmem
    exact Bool.eq_false_iff.2 hnone

/-- The choice does not depend on the order of the identities. -/
theorem select_perm {other : TlsIdentityStore} (hperm : store.identities.Perm other.identities) (serverName : Bytes) :
    other.select serverName = store.select serverName := by
  have hexactly := find?_eq_of_perm (p := fun identity => identity.matchesServerNameExactly serverName) hperm
    fun left hleft right hright => eq_of_matchesExactly hleft hright
  rw [select, select, ← hexactly]
  cases hfind : store.identities.find? fun identity => identity.matchesServerNameExactly serverName with
  | some identity => rfl
  | none =>
    have hnone : ∀ identity ∈ store.identities, identity.matchesServerNameExactly serverName = false :=
      fun identity hmem => Bool.eq_false_iff.2 (List.find?_eq_none.1 hfind identity hmem)
    rw [Option.none_or, Option.none_or]
    symm
    exact find?_eq_of_perm hperm fun left hleft right hright => eq_of_matches hleft hright hnone

/-- Every order of the identities is accepted and chooses alike. What is chosen has the name or a wildcard over it, and it
is the identity with the name when there is one. Nothing is chosen only when nothing presents the name, up to wildcards
and texts that are no server names. -/
theorem select_unambiguous {identities : List TlsIdentity} {store : TlsIdentityStore}
    (h : new identities = .ok store) :
    (∀ others, identities.Perm others → ∃ other, new others = .ok other ∧
      ∀ serverName, other.select serverName = store.select serverName) ∧
    (∀ serverName identity, store.select serverName = some identity →
      identity ∈ identities ∧ (∃ dnsName ∈ identity.dnsNames, Presents dnsName serverName) ∧
        ∀ exact ∈ identities, (∃ dnsName ∈ exact.dnsNames, eqIgnoreAsciiCase dnsName serverName = true) →
          identity = exact) ∧
    ∀ serverName, store.select serverName = none → ∀ identity ∈ identities, ∀ dnsName ∈ identity.dnsNames,
      Presents dnsName serverName → ¬IsServerName serverName ∧ ascii "*." <+: dnsName := by
  obtain rfl := new_iff.1 h
  refine ⟨?_, ?_, ?_⟩
  · intro others hperm
    have hdistinct : ((others.flatMap TlsIdentity.dnsNames).map toAsciiLowercase).Nodup :=
      ((hperm.flatMap_right TlsIdentity.dnsNames).map toAsciiLowercase).nodup store.distinct
    have hne : others ≠ [] := fun hnil => store.ne_nil (by rw [hnil] at hperm; exact hperm.eq_nil)
    exact ⟨⟨others, hne, hdistinct⟩, new_iff.2 rfl, select_perm hperm⟩
  · intro serverName identity hselect
    rcases select_cases store serverName with ⟨found, hmem, hmatches, hfound⟩ | ⟨hnone, hfind⟩
    · rw [hfound] at hselect
      cases hselect
      obtain ⟨dnsName, hname, -, heq⟩ := TlsIdentity.matchesServerNameExactly_iff.1 hmatches
      refine ⟨hmem, ⟨dnsName, hname, Or.inl heq⟩, ?_⟩
      intro exact hexact hother
      obtain ⟨other, hothermem, heq'⟩ := hother
      apply eq_of_dnsName hmem hexact hname hothermem
      rw [eqIgnoreAsciiCase_congr heq, eqIgnoreAsciiCase_comm, heq']
    · rw [hfind] at hselect
      have hmem := List.mem_of_find?_eq_some hselect
      have hmatches := List.find?_some hselect
      obtain ⟨hserver, hpresents⟩ := TlsIdentity.matchesServerName_iff.1 hmatches
      refine ⟨hmem, hpresents, ?_⟩
      intro exact hexact hother
      obtain ⟨other, hothermem, heq⟩ := hother
      exact eq_of_matches hmem hexact hnone hmatches
        (TlsIdentity.matchesServerName_iff.2 ⟨hserver, other, hothermem, Or.inl heq⟩)
  · intro serverName hselect identity hmem dnsName hname hpresents
    rcases select_cases store serverName with ⟨found, -, -, hfound⟩ | ⟨hnone, hfind⟩
    · rw [hfound] at hselect
      cases hselect
    · rw [hfind, List.find?_eq_none] at hselect
      refine ⟨fun hserver => ?_, ?_⟩
      · exact hselect identity hmem (TlsIdentity.matchesServerName_iff.2 ⟨hserver, dnsName, hname, hpresents⟩)
      · obtain ⟨suffix, -, -, hwildcard, -⟩ := coversLabel_of_presents (hnone identity hmem) hname hpresents
        exact ⟨suffix, hwildcard.symm⟩

def wildcardIdentity : TlsIdentity where
  certificateChain := [[1]]
  signingKey := .zero
  dnsNames := [ascii "*.Example.com"]

def exactIdentity : TlsIdentity where
  certificateChain := [[2]]
  signingKey := .zero
  dnsNames := [ascii "www.example.com"]

def twoIdentities : TlsIdentityStore := ⟨[wildcardIdentity, exactIdentity], by simp, by decide⟩

theorem select_unambiguous_exact : twoIdentities.select (ascii "WWW.example.com") = some exactIdentity := by
  have hnew : new [wildcardIdentity, exactIdentity] = .ok twoIdentities := new_iff.2 rfl
  have hsome : (twoIdentities.select (ascii "WWW.example.com")).isSome = true := by decide
  obtain ⟨identity, hselect⟩ := Option.isSome_iff_exists.1 hsome
  have hexact : identity = exactIdentity :=
    ((select_unambiguous hnew).2.1 _ _ hselect).2.2 exactIdentity (by simp)
      ⟨ascii "www.example.com", by simp [exactIdentity], by decide⟩
  rw [hselect, hexact]

def oneWildcard : TlsIdentityStore := ⟨[wildcardIdentity], by simp, by decide⟩

/-- A name whose first label is not ASCII. -/
def accentedName : Bytes := [195, 169] ++ ascii ".example.com"

/-- A wildcard over a name that is not ASCII is not chosen. -/
theorem select_accentedName :
    new [wildcardIdentity] = .ok oneWildcard ∧ oneWildcard.select accentedName = none ∧
      ∃ dnsName ∈ wildcardIdentity.dnsNames, CoversLabel dnsName accentedName :=
  ⟨new_iff.2 rfl, by decide, ascii "*.Example.com", by simp [wildcardIdentity], ascii "Example.com", [195, 169],
    ascii "example.com", rfl, rfl, by simp, by decide, by decide⟩

end TlsIdentityStore

end BareProxy.Tls
