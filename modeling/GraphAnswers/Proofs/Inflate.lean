import GraphAnswers.Gzip.Inflate
import Mathlib.Tactic.Common
/-!
# What follows compressed data

Compressed data tells by itself where it ends.  So each step of inflating it takes what it needs
from the front and leaves the rest untouched: whole octets that follow make no difference to what is
read, and are there afterwards (`Gzip.ReadsAlike`).  The steps are put together from smaller ones,
and the lemmas follow them; at the end stands the whole of the data (`Gzip.inflate_append`).

Two kinds of steps look at all that is left.  One leaves out the rest of an octet, which is why what
follows has to be whole octets.  The others take the number of bits for a bound on how often they go
on; a greater bound changes nothing about what is read.
-/
namespace GraphAnswers.Gzip

variable {α β : Type}

/-- What reads a beginning of the bits, and gives what is left of them. -/
abbrev BitReader (α : Type) := List Bool → Option (α × List Bool)

/-- **Whether a reader does not notice what follows**: whatever the first reads, the second reads as
well when whole octets follow, and leaves them over.  Usually both are the same. -/
def ReadsAlike (read read' : BitReader α) : Prop :=
  ∀ ⦃bits : List Bool⦄ ⦃a : α⦄ ⦃rest : List Bool⦄, read bits = some (a, rest) →
    ∀ more : List Bool, 8 ∣ more.length → read' (bits ++ more) = some (a, rest ++ more)

/-! ### Readers put together -/

theorem readsAlike_pure (a : α) :
    ReadsAlike (fun bits => some (a, bits)) fun bits => some (a, bits) := by
  intro bits b rest h more _
  cases h
  rfl

theorem readsAlike_none (read : BitReader α) : ReadsAlike (fun _ => none) read := by
  intro bits a rest h
  cases h

/-- One reader after another. -/
theorem ReadsAlike.bind {read read' : BitReader α}
    {next next' : α × List Bool → Option (β × List Bool)} (h : ReadsAlike read read')
    (hnext : ∀ a, ReadsAlike (fun bits => next (a, bits)) fun bits => next' (a, bits)) :
    ReadsAlike (fun bits => read bits >>= next) fun bits => read' bits >>= next' := by
  intro bits b rest hb more hmore
  obtain ⟨⟨a, middle⟩, ha, hb⟩ := Option.bind_eq_some_iff.mp hb
  show (read' (bits ++ more)).bind next' = _
  rw [h ha more hmore]
  exact hnext a hb more hmore

/-- What does not depend on the bits comes first. -/
theorem readsAlike_given {found : Option β} {next next' : β → BitReader α}
    (hnext : ∀ b, ReadsAlike (next b) (next' b)) :
    ReadsAlike (fun bits => found >>= fun b => next b bits)
      fun bits => found >>= fun b => next' b bits := by
  cases found with
  | none => exact readsAlike_none _
  | some b => exact hnext b

/-- A test that does not depend on the bits tells which reader goes on. -/
theorem ReadsAlike.ite {c : Prop} [Decidable c] {yes no yes' no' : BitReader α}
    (hyes : ReadsAlike yes yes') (hno : ReadsAlike no no') :
    ReadsAlike (fun bits => if c then yes bits else no bits)
      fun bits => if c then yes' bits else no' bits := by
  by_cases hc : c
  · simpa only [if_pos hc] using hyes
  · simpa only [if_neg hc] using hno

/-! ### Bits and octets -/

theorem readsAlike_readBits (n : Nat) : ReadsAlike (readBits n) (readBits n) := by
  induction n with
  | zero => exact readsAlike_pure 0
  | succ n ih =>
    intro bits a rest h more hmore
    cases bits with
    | nil => cases h
    | cons bit bits =>
      obtain ⟨⟨value, middle⟩, hread, h⟩ := Option.map_eq_some_iff.mp h
      cases h
      rw [List.cons_append, readBits, ih hread more hmore]
      rfl

/-- Whole octets that follow do not change how much is left of the octet that has been begun. -/
theorem alignToOctet_append (bits : List Bool) {more : List Bool} (h : 8 ∣ more.length) :
    alignToOctet (bits ++ more) = alignToOctet bits ++ more := by
  have hlength : (bits ++ more).length % 8 = bits.length % 8 := by
    rw [List.length_append]
    omega
  unfold alignToOctet
  rw [hlength, List.drop_append_of_le_length (Nat.mod_le _ _)]

theorem readsAlike_readOctets (n : Nat) (out : Output) :
    ReadsAlike (readOctets n out) (readOctets n out) := by
  induction n generalizing out with
  | zero => exact readsAlike_pure out
  | succ n ih => exact (readsAlike_readBits 8).bind fun value => ih (out.push (UInt8.ofNat value))

theorem readsAlike_readStored (out : Output) : ReadsAlike (readStored out) (readStored out) := by
  have haligned : ReadsAlike (fun bits => readBits 16 (alignToOctet bits))
      fun bits => readBits 16 (alignToOctet bits) := by
    intro bits a rest h more hmore
    show readBits 16 (alignToOctet (bits ++ more)) = _
    rw [alignToOctet_append bits hmore]
    exact readsAlike_readBits 16 h more hmore
  refine haligned.bind fun length => (readsAlike_readBits 16).bind fun complement => ?_
  exact (readsAlike_readOctets length out).ite (readsAlike_none _)

/-! ### Symbols -/

theorem readsAlike_follow (symbols counts : List Nat) (code first index : Nat) :
    ReadsAlike (PrefixCode.follow symbols counts code first index)
      (PrefixCode.follow symbols counts code first index) := by
  induction counts generalizing code first index with
  | nil =>
    intro bits a rest h
    cases bits <;> cases h
  | cons count counts ih =>
    intro bits a rest h more hmore
    cases bits with
    | nil => cases h
    | cons bit bits =>
      rw [List.cons_append, PrefixCode.follow]
      rw [PrefixCode.follow] at h
      by_cases hfound : 2 * code + (if bit then 1 else 0) < 2 * first + count
      · rw [if_pos hfound] at h ⊢
        obtain ⟨symbol, hsymbol, h⟩ := Option.map_eq_some_iff.mp h
        cases h
        rw [hsymbol]
        rfl
      · rw [if_neg hfound] at h ⊢
        exact ih _ _ _ h more hmore

theorem readsAlike_read (c : PrefixCode) : ReadsAlike c.read c.read :=
  readsAlike_follow c.symbols c.counts 0 0 0

theorem readsAlike_readExtra (table : List (Nat × Nat)) (i : Nat) :
    ReadsAlike (readExtra table i) (readExtra table i) :=
  readsAlike_given fun entry =>
    (readsAlike_readBits entry.2).bind fun more => readsAlike_pure (entry.1 + more)

/-- The symbols of a block, also where the bound on their number is greater. -/
theorem readsAlike_readSymbols (literals distances : PrefixCode) {fuel fuel' : Nat}
    (h : fuel ≤ fuel') (out : Output) :
    ReadsAlike (readSymbols literals distances fuel out)
      (readSymbols literals distances fuel' out) := by
  induction fuel generalizing fuel' out with
  | zero => exact readsAlike_none _
  | succ fuel ih =>
    obtain ⟨fuel', rfl⟩ : ∃ n, fuel' = n + 1 := ⟨fuel' - 1, by omega⟩
    have hless : fuel ≤ fuel' := by omega
    refine (readsAlike_read literals).bind fun symbol => ?_
    refine (ih hless _).ite (.ite (readsAlike_pure out) ?_)
    refine (readsAlike_readExtra _ _).bind fun length => ?_
    refine (readsAlike_read distances).bind fun i => ?_
    refine (readsAlike_readExtra _ _).bind fun distance => ?_
    exact (ih hless _).ite (readsAlike_none _)

/-- The number of bits bounds the number of symbols. -/
theorem readsAlike_allSymbols (literals distances : PrefixCode) (out : Output) :
    ReadsAlike (fun bits => readSymbols literals distances (bits.length + 1) out bits)
      fun bits => readSymbols literals distances (bits.length + 1) out bits := by
  intro bits a rest h more hmore
  have hfuel : bits.length + 1 ≤ (bits ++ more).length + 1 := by
    rw [List.length_append]
    omega
  exact readsAlike_readSymbols literals distances hfuel out h more hmore

/-! ### The codes of a block -/

theorem readsAlike_readShortLengths (n : Nat) :
    ReadsAlike (readShortLengths n) (readShortLengths n) := by
  induction n with
  | zero => exact readsAlike_pure []
  | succ n ih =>
    exact (readsAlike_readBits 3).bind fun length => ih.bind fun rest =>
      readsAlike_pure (length :: rest)

theorem readsAlike_readCodeLengths (code : PrefixCode) (total fuel : Nat) (lengths : List Nat) :
    ReadsAlike (readCodeLengths code total fuel lengths)
      (readCodeLengths code total fuel lengths) := by
  induction fuel generalizing lengths with
  | zero => exact readsAlike_none _
  | succ fuel ih =>
    refine (readsAlike_pure lengths).ite (.ite (readsAlike_none _) ?_)
    refine (readsAlike_read code).bind fun symbol => ?_
    refine (ih _).ite (.ite ?_ (.ite ?_ ?_))
    · exact readsAlike_given fun last => (readsAlike_readBits 2).bind fun more => ih _
    · exact (readsAlike_readBits 3).bind fun more => ih _
    · exact (readsAlike_readBits 7).bind fun more => ih _

/-- The two codes that a block brings. -/
theorem readCodes_append {bits rest : List Bool} {literals distances : PrefixCode}
    (h : readCodes bits = some (literals, distances, rest)) {more : List Bool}
    (hmore : 8 ∣ more.length) :
    readCodes (bits ++ more) = some (literals, distances, rest ++ more) := by
  unfold readCodes at h ⊢
  obtain ⟨⟨literalCount, bits₁⟩, hliteralCount, h⟩ := Option.bind_eq_some_iff.mp h
  obtain ⟨⟨distanceCount, bits₂⟩, hdistanceCount, h⟩ := Option.bind_eq_some_iff.mp h
  obtain ⟨⟨orderCount, bits₃⟩, horderCount, h⟩ := Option.bind_eq_some_iff.mp h
  dsimp only at h
  split at h
  · cases h
  · rename_i hcounts
    obtain ⟨⟨short, bits₄⟩, hshort, h⟩ := Option.bind_eq_some_iff.mp h
    obtain ⟨code, hcode, h⟩ := Option.bind_eq_some_iff.mp h
    obtain ⟨⟨all, bits₅⟩, hall, h⟩ := Option.bind_eq_some_iff.mp h
    obtain ⟨found, hliterals, h⟩ := Option.bind_eq_some_iff.mp h
    obtain ⟨found', hdistances, h⟩ := Option.bind_eq_some_iff.mp h
    cases h
    simp only [Option.bind_eq_bind, Option.bind_some, if_neg hcounts, hcode, hliterals, hdistances,
      readsAlike_readBits 5 hliteralCount more hmore,
      readsAlike_readBits 5 hdistanceCount more hmore,
      readsAlike_readBits 4 horderCount more hmore,
      readsAlike_readShortLengths _ hshort more hmore,
      readsAlike_readCodeLengths _ _ _ _ hall more hmore]
    rfl

/-! ### Blocks -/

/-- Reads a block of a kind, its head left aside. -/
def readBlock (kind : Nat) (out : Output) : BitReader Output := fun bits =>
  match kind with
  | 0 => readStored out bits
  | 1 => do
    let literals ← PrefixCode.ofLengths? true fixedLiterals
    let distances ← PrefixCode.ofLengths? true fixedDistances
    readSymbols literals distances (bits.length + 1) out bits
  | 2 => do
    let (literals, distances, bits) ← readCodes bits
    readSymbols literals distances (bits.length + 1) out bits
  | _ => none

theorem readBlocks_succ (fuel : Nat) (out : Output) :
    readBlocks (fuel + 1) out = fun bits => (do
      let (last, bits) ← readBits 1 bits
      let (kind, bits) ← readBits 2 bits
      let (out, bits) ← readBlock kind out bits
      if last = 1 then pure (out, bits) else readBlocks fuel out bits) := by
  funext bits
  rw [readBlocks]
  refine congrArg (readBits 1 bits >>= ·) (funext fun (last, bits) => ?_)
  refine congrArg (readBits 2 bits >>= ·) (funext fun (kind, bits) => ?_)
  match kind with
  | 0 => rfl
  | 1 => simp only [readBlock, bind_assoc]
  | 2 => simp only [readBlock, bind_assoc]
  | _ + 3 => rfl

theorem readsAlike_readBlock (kind : Nat) (out : Output) :
    ReadsAlike (readBlock kind out) (readBlock kind out) := by
  match kind with
  | 0 => exact readsAlike_readStored out
  | 1 =>
    exact readsAlike_given fun literals => readsAlike_given fun distances =>
      readsAlike_allSymbols literals distances out
  | 2 =>
    intro bits a rest h more hmore
    obtain ⟨⟨literals, distances, middle⟩, hcodes, h⟩ := Option.bind_eq_some_iff.mp h
    show readCodes (bits ++ more) >>= _ = _
    rw [readCodes_append hcodes hmore]
    exact readsAlike_allSymbols literals distances out h more hmore
  | _ + 3 => exact readsAlike_none _

/-- The blocks, also where the bound on their number is greater. -/
theorem readsAlike_readBlocks {fuel fuel' : Nat} (h : fuel ≤ fuel') (out : Output) :
    ReadsAlike (readBlocks fuel out) (readBlocks fuel' out) := by
  induction fuel generalizing fuel' out with
  | zero => exact readsAlike_none _
  | succ fuel ih =>
    obtain ⟨fuel', rfl⟩ : ∃ n, fuel' = n + 1 := ⟨fuel' - 1, by omega⟩
    have hless : fuel ≤ fuel' := by omega
    rw [readBlocks_succ, readBlocks_succ]
    refine (readsAlike_readBits 1).bind fun last => ?_
    refine (readsAlike_readBits 2).bind fun kind => ?_
    refine (readsAlike_readBlock kind out).bind fun out => ?_
    exact (readsAlike_pure out).ite (ih hless out)

/-- **What follows compressed data makes no difference**, and is left over. -/
theorem inflate_append {bits rest : List Bool} {out : Output} (h : inflate bits = some (out, rest))
    {more : List Bool} (hmore : 8 ∣ more.length) :
    inflate (bits ++ more) = some (out, rest ++ more) := by
  have hfuel : bits.length + 1 ≤ (bits ++ more).length + 1 := by
    rw [List.length_append]
    omega
  exact readsAlike_readBlocks hfuel #[] h more hmore

end GraphAnswers.Gzip
