import EphemeralDatabase.Proofs.Handle.Url

/-!
# How hosts are written

An IPv4 address is four numbers below 256 with dots between them.  An IPv6 address is eight groups
of hexadecimal digits with colons between them.  Groups of zeros next to each other may be left out
at one place, which then reads `::`, and in place of the last two groups there may be an IPv4
address.  A host name is made of letters, digits, hyphens, underscores and dots.

What matters for a URL is which characters can stand in them: letters, digits and four marks
(`mem_of_isHost`), with a colon in every IPv6 address (`mem_of_isV6`).
-/

namespace EphemeralDatabase

/-- What is in none of the pieces of a text, and is not what separates them, is not in the text. -/
theorem forall_mem_of_splitOn {P : Char → Prop} {x : Char} {cs : List Char} (hx : P x)
    (h : ∀ piece ∈ cs.splitOn x, ∀ c ∈ piece, P c) : ∀ c ∈ cs, P c := by
  have hpieces : ∀ pieces : List (List Char), (∀ piece ∈ pieces, ∀ c ∈ piece, P c) →
      ∀ c ∈ [x].intercalate pieces, P c := by
    intro pieces
    induction pieces with
    | nil => simp
    | cons piece pieces ih =>
      cases pieces with
      | nil => simp
      | cons next pieces =>
        intro hall
        obtain ⟨hpiece, hrest⟩ := List.forall_mem_cons.1 hall
        rw [List.intercalate_cons_cons]
        exact List.forall_mem_append.2 ⟨List.forall_mem_append.2
          ⟨hpiece, List.forall_mem_singleton.2 hx⟩, ih hrest⟩
  have hcs := hpieces _ h
  rwa [List.intercalate_splitOn] at hcs

namespace Inet

/-! ## Addresses -/

/-- A number below 256 in decimal digits. -/
def isOctet (piece : List Char) : Bool := (List.range 256).any fun n => (toString n).toList == piece

/-- An IPv4 address. -/
def isV4 (cs : List Char) : Bool :=
  let pieces := cs.splitOn '.'
  pieces.length == 4 && pieces.all isOctet

/-- One to four hexadecimal digits. -/
def isGroup (piece : List Char) : Bool :=
  (1 ≤ piece.length && piece.length ≤ 4) && piece.all fun c => (hexValue? c).isSome

/-- The number of groups.  An IPv4 address at the end is two of them. -/
def groupCount? : List (List Char) → Option ℕ
  | [] => some 0
  | piece :: pieces =>
      if isGroup piece then (groupCount? pieces).map (· + 1)
      else if isV4 piece && pieces.isEmpty then some 2
      else none

/-- What stands between the colons of a text, and nothing if there is no text. -/
def groups (cs : List Char) : List (List Char) := if cs.isEmpty then [] else cs.splitOn ':'

/-- An IPv6 address.  Where groups are left out there is at least one of them. -/
def isV6 (cs : List Char) : Bool :=
  match cutAt? "::".toList cs with
  | none => groupCount? (groups cs) == some 8
  | some (before, after) =>
      (groups before).all isGroup &&
        (groupCount? (groups after)).any fun n => (groups before).length + n ≤ 7

/-- A name of letters, digits, hyphens, underscores and dots. -/
def isHostName (cs : List Char) : Bool :=
  !cs.isEmpty && cs.all fun c => c.isAlphanum || "-_.".toList.contains c

/-- A host name, an IPv4 address or an IPv6 address. -/
def isHost (cs : List Char) : Bool := isHostName cs || isV4 cs || isV6 cs

example : (["::", "::1", "2001:db8::", "fe80::1:2", "::ffff:10.0.0.1", "1:2:3:4:5:6:7:8",
    "1:2:3:4:5:6:10.0.0.1"].all fun s => isV6 s.toList) = true := by decide +kernel

example : (["", ":", ":::", "1", "1::2::3", "1:2:3:4:5:6:7", "1:2:3:4:5:6:7::8", "12345::",
    "10.0.0.1::", "::10.0.0.256"].any fun s => isV6 s.toList) = false := by decide +kernel

/-! ## Characters of addresses -/

/-- Hexadecimal digits, dots and colons. -/
def IsNumeric (cs : List Char) : Prop :=
  ∀ c ∈ cs, (hexValue? c).isSome = true ∨ c = '.' ∨ c = ':'

instance (cs : List Char) : Decidable (IsNumeric cs) := List.decidableBAll _ _

variable {cs : List Char}

theorem isNumeric_of_isGroup (h : isGroup cs = true) : IsNumeric cs := fun c hc => by
  simp only [isGroup, Bool.and_eq_true, List.all_eq_true] at h
  exact .inl (h.2 c hc)

theorem hexValue?_of_isDigit {c : Char} (h : c.isDigit = true) :
    (hexValue? c).isSome = true := by
  rw [hexValue?, if_pos h]
  rfl

theorem isDigit_of_isV4 (h : isV4 cs = true) : ∀ c ∈ cs, c.isDigit = true ∨ c = '.' := by
  simp only [isV4, Bool.and_eq_true, List.all_eq_true] at h
  refine forall_mem_of_splitOn (.inr rfl) fun piece hpiece c hc => ?_
  obtain ⟨n, -, hn⟩ := List.any_eq_true.1 (h.2 piece hpiece)
  obtain rfl : (toString n).toList = piece := by simpa using hn
  by_cases hdigit : c.isDigit = true
  · exact .inl hdigit
  · exact absurd hc (notMem_toString_nat (by simpa using hdigit) n)

theorem isNumeric_of_isV4 (h : isV4 cs = true) : IsNumeric cs := fun c hc =>
  (isDigit_of_isV4 h c hc).imp hexValue?_of_isDigit .inl

theorem isNumeric_of_groupCount? {pieces : List (List Char)} {n : ℕ}
    (h : groupCount? pieces = some n) : ∀ piece ∈ pieces, IsNumeric piece := by
  induction pieces generalizing n with
  | nil => simp
  | cons piece pieces ih =>
    rw [groupCount?] at h
    split at h
    · rename_i hgroup
      obtain ⟨m, hm, -⟩ := Option.map_eq_some_iff.1 h
      exact List.forall_mem_cons.2 ⟨isNumeric_of_isGroup hgroup, ih hm⟩
    · split at h
      · rename_i hlast
        obtain ⟨hv4, hnil⟩ := Bool.and_eq_true_iff.1 hlast
        obtain rfl : pieces = [] := List.isEmpty_iff.1 hnil
        simpa using isNumeric_of_isV4 hv4
      · cases h

theorem isNumeric_of_groups (h : ∀ piece ∈ groups cs, IsNumeric piece) : IsNumeric cs := by
  unfold groups at h
  split at h
  · rename_i hnil
    rw [List.isEmpty_iff.1 hnil]
    exact fun _ hc => absurd hc List.not_mem_nil
  · exact forall_mem_of_splitOn (.inr (.inr rfl)) h

theorem isNumeric_of_isV6 (h : isV6 cs = true) : IsNumeric cs := by
  unfold isV6 at h
  split at h
  · exact isNumeric_of_groups (isNumeric_of_groupCount? (by simpa using h))
  · rename_i before after hcut
    obtain ⟨hbefore, hafter⟩ := Bool.and_eq_true_iff.1 h
    obtain ⟨n, hn, -⟩ := (Option.any_eq_true _ _).1 hafter
    have hleft : IsNumeric before := isNumeric_of_groups fun piece hpiece =>
      isNumeric_of_isGroup (List.all_eq_true.1 hbefore piece hpiece)
    have hright : IsNumeric after := isNumeric_of_groups (isNumeric_of_groupCount? hn)
    have hmark : IsNumeric "::".toList := by decide
    rw [← eq_of_cutAt? hcut]
    exact List.forall_mem_append.2 ⟨List.forall_mem_append.2 ⟨hleft, hmark⟩, hright⟩

/-- One piece is not an IPv6 address. -/
theorem groupCount?_singleton_ne (piece : List Char) : groupCount? [piece] ≠ some 8 := by
  simp only [groupCount?]
  split
  · simp
  · split <;> simp

/-- **There is a colon in every IPv6 address.** -/
theorem mem_of_isV6 (h : isV6 cs = true) : ':' ∈ cs := by
  unfold isV6 at h
  split at h
  · by_contra hcolon
    have hcount : groupCount? (groups cs) = some 8 := by simpa using h
    rw [groups, List.splitOn_eq_singleton hcolon] at hcount
    split at hcount
    · cases hcount
    · exact groupCount?_singleton_ne cs hcount
  · rename_i before after hcut
    rw [← eq_of_cutAt? hcut]
    simp

/-! ## Characters of hosts -/

theorem isAlphanum_of_hexValue? {c : Char} (h : (hexValue? c).isSome = true) :
    c.isAlphanum = true := by
  have hall : ∀ n < 128, (hexValue? (Char.ofNat n)).isSome = true →
      (Char.ofNat n).isAlphanum = true := by decide
  have hlow : c.toNat < 128 := by
    by_contra hhigh
    have hnot {top : Char} (htop : top.toNat < 128) : ¬ c ≤ top := fun hle => by
      have hnat : c.toNat ≤ top.toNat := hle
      omega
    have hdigit : c.isDigit = false := by
      have hnine : 57 < c.val :=
        UInt32.lt_iff_toNat_lt.2 (lt_of_lt_of_le (by decide) (not_lt.1 hhigh))
      simp [Char.isDigit, hnine]
    have hupper : ¬ c ≤ 'F' := hnot (by decide)
    have hlower : ¬ c ≤ 'f' := hnot (by decide)
    simp [hexValue?, hdigit, hupper, hlower] at h
  rw [← Char.ofNat_toNat c] at h ⊢
  exact hall _ hlow h

theorem isHostName_iff : isHostName cs = true ↔
    cs ≠ [] ∧ ∀ c ∈ cs, c.isAlphanum = true ∨ c = '-' ∨ c = '_' ∨ c = '.' := by
  simp [isHostName]

theorem isHostName_of_isV4 (h : isV4 cs = true) : isHostName cs = true := by
  refine isHostName_iff.2 ⟨?_, fun c hc => ?_⟩
  · rintro rfl
    revert h
    decide
  · rcases isDigit_of_isV4 h c hc with hdigit | rfl
    · exact .inl (by simp [Char.isAlphanum, hdigit])
    · exact .inr (.inr (.inr rfl))

/-- A host has an IPv6 address or a name, an IPv4 address being a name as well. -/
theorem isHostName_of_isHost (h : isHost cs = true) (hv6 : isV6 cs = false) :
    isHostName cs = true := by
  simp only [isHost, hv6, Bool.or_false, Bool.or_eq_true] at h
  exact h.elim id isHostName_of_isV4

/-- What can stand in a host. -/
theorem mem_of_isHost (h : isHost cs = true) :
    ∀ c ∈ cs, c.isAlphanum = true ∨ c = '-' ∨ c = '_' ∨ c = '.' ∨ c = ':' := by
  intro c hc
  by_cases hv6 : isV6 cs = true
  · rcases isNumeric_of_isV6 hv6 c hc with hhex | rfl | rfl
    · exact .inl (isAlphanum_of_hexValue? hhex)
    · tauto
    · tauto
  · have hname := isHostName_of_isHost h (by simpa using hv6)
    have hmem := (isHostName_iff.1 hname).2 c hc
    tauto

end Inet

end EphemeralDatabase
