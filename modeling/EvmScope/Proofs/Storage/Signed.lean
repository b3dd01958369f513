import EvmScope.Proofs.Simulation.Range
import EvmScope.Proofs.Storage.Signs
import EvmScope.Proofs.Storage.Simulated

set_option autoImplicit false

/-! # Signed variables

A variable of a signed integer type holds its value in two's complement. The current state shows every number
alike: `Signed Number` is recognised by the word `Number` in it, so the bits of the variable are read without a
sign and written in decimal. This is the value of the variable exactly if the bits, read so, are in the range of
the type.

Which type a word is shown by depends on the change that gave it. The entry of a key is that of the last change
with this key, and changes of contracts and traces carry the type of their variable. A simulated change carries
the type of the entry that it was computed from, which may be any; it is the one exception. -/

namespace EvmScope

namespace Word

/-! ## Numbers among words -/

/-- How a number is shown: in decimal, or as it is written if that takes too many digits. -/
def numberText (n : Int) : String :=
  (Numeral.decimalWithin n).toOption.getD (Numeral.hex n)

theorem numberText_of_le {n : Int} (hn : n.natAbs ≤ 2 ^ 256) : numberText n = Numeral.decimal n := by
  have hshort : (Nat.toDigits 10 n.natAbs).length ≤ Numeral.maxDigits := by
    rw [Nat.length_toDigits_le_iff (by decide) (by decide)]
    calc n.natAbs ≤ 2 ^ 256 := hn
      _ < 10 ^ 256 := by decide
      _ ≤ 10 ^ Numeral.maxDigits := Nat.pow_le_pow_right (by decide) (by decide)
  rw [numberText, Numeral.decimalWithin, if_neg (Nat.not_lt.2 hshort)]
  rfl

/-- A number that is shown as a decimal numeral is shown as its own. -/
theorem numberText_eq_decimal {n m : Int} (hsame : numberText n = Numeral.decimal m) : n = m := by
  unfold numberText Numeral.decimalWithin at hsame
  split at hsame
  · -- the mark of a written word is no digit
    have hmark : 'x' ∈ (Numeral.decimal m).toList := by
      rw [← hsame]
      show 'x' ∈ (Numeral.hex n).toList
      rw [Numeral.toList_hex]
      split
      · simp
      · simp
    have hdigits : 'x' ∉ Nat.toDigits 10 m.natAbs := fun hx =>
      absurd (Numeral.isDecimalDigit_of_mem_toDigits hx) (by decide)
    rw [Numeral.toList_decimal] at hmark
    split at hmark
    · exact absurd (List.mem_of_ne_of_mem (by decide) hmark) hdigits
    · exact absurd hmark hdigits
  · exact Numeral.decimal_injective n m hsame

/-- A written word is shown as a number by a type that is called one. -/
theorem display_hex {type : String} (hboolean : containsText type "Boolean" = false)
    (haddress : containsText type "Address" = false) (hnumber : containsText type "Number" = true) (n : Int) :
    display (Numeral.hex n) (some type) = numberText n := by
  have hread : Numeral.read? .hexadecimal (dropMark (Numeral.hex n)) = some n :=
    Numeral.read?_eq_some_iff.2 (read_dropMark_hex n)
  have hsome : Numeral.hex n ≠ "" := by
    intro hempty
    rw [hempty] at hread
    cases hread
  simp only [display, hsome, hboolean, haddress, hnumber, Option.getD_some, displayNumber, hread, if_false, if_true,
    Bool.false_eq_true]
  rfl

end Word

/-! ## Signed integer types -/

namespace StorageVariable

/-- A variable is of a signed integer type and has its bits. -/
structure IsSigned (v : StorageVariable) (bits : Nat) : Prop where
  bits_mem : bits ∈ [8, 16, 32, 64, 128, 256]
  typeLabel_eq : v.typeLabel = Argument.integerName true bits
  byteCount_eq : 8 * v.byteCount = bits

/-- The value of a signed variable within a word: its bits in two's complement. -/
def signedValue (v : StorageVariable) (bits : Nat) (word : Int) : Int :=
  (BitVec.ofInt bits (word >>> (8 * v.offset).toNat)).toInt

variable {declared : List StorageVariable} {v : StorageVariable} {bits : Nat}

theorem IsSigned.bits_bounds (hsigned : v.IsSigned bits) : 1 ≤ bits ∧ bits ≤ 256 := by
  have hall : ∀ bits ∈ [8, 16, 32, 64, 128, 256], 1 ≤ bits ∧ bits ≤ 256 := by decide
  exact hall bits hsigned.bits_mem

/-- The names that the program has for the signed types, each recognised as that of a number. -/
theorem IsSigned.friendlyType_eq (hsigned : v.IsSigned bits) :
    Word.friendlyType v.typeLabel = "Signed Number (" ++ Argument.integerName true bits ++ ")"
      ∧ containsText (Word.friendlyType v.typeLabel) "Boolean" = false
      ∧ containsText (Word.friendlyType v.typeLabel) "Address" = false
      ∧ containsText (Word.friendlyType v.typeLabel) "Number" = true := by
  have hall : ∀ bits ∈ [8, 16, 32, 64, 128, 256],
      Word.friendlyType (Argument.integerName true bits)
          = "Signed Number (" ++ Argument.integerName true bits ++ ")"
        ∧ containsText (Word.friendlyType (Argument.integerName true bits)) "Boolean" = false
        ∧ containsText (Word.friendlyType (Argument.integerName true bits)) "Address" = false
        ∧ containsText (Word.friendlyType (Argument.integerName true bits)) "Number" = true := by
    decide +kernel
  rw [hsigned.typeLabel_eq]
  exact hall bits hsigned.bits_mem

/-- The value of a signed variable is the two's-complement reading of what is shown, if the variable shares its
    slot or begins it. -/
theorem IsSigned.signedValue_eq (hsigned : v.IsSigned bits)
    (hplace : declared.countP (fun other => other.slot = v.slot) ≠ 1 ∨ v.offset = 0) (word : Int) :
    v.signedValue bits word = (Layout.shown declared v word).bmod (2 ^ bits) := by
  rw [signedValue, BitVec.toInt_ofInt, Layout.shown]
  by_cases halone : declared.countP (fun other => other.slot = v.slot) = 1
  · rw [if_pos halone, hplace.resolve_left (not_not_intro halone)]
    simp
  · have hbits : (8 * v.byteCount).toNat = bits := by
      rw [hsigned.byteCount_eq, Int.toNat_natCast]
    have hpower : ((2 ^ bits : Nat) : Int) = 2 ^ bits := Int.natCast_pow 2 bits
    rw [if_neg halone, hbits, ← hpower, Int.emod_bmod]

/-- The numbers in the range of a signed type are their own two's-complement reading. -/
theorem bmod_eq_self_iff_inRange (hbits : 1 ≤ bits) (n : Int) :
    n.bmod (2 ^ bits) = n ↔ Argument.InRange true bits n := by
  obtain ⟨low, rfl⟩ := Nat.exists_eq_add_of_le' hbits
  have hpower : ((2 ^ (low + 1) : Nat) : Int) = 2 * 2 ^ low := by
    rw [Int.natCast_pow, Int.pow_succ']
    rfl
  rw [Argument.InRange, if_pos rfl, Nat.add_sub_cancel]
  constructor
  · intro hsame
    have hlow := Int.le_bmod (x := n) (Nat.two_pow_pos (low + 1))
    have hhigh := Int.bmod_lt (x := n) (Nat.two_pow_pos (low + 1))
    rw [hpower, hsame] at hlow hhigh
    omega
  · rintro ⟨hlow, hhigh⟩
    refine Int.bmod_eq_of_le ?_ ?_
    · rw [hpower]
      omega
    · rw [hpower]
      omega

theorem IsSigned.natAbs_signedValue_le (hsigned : v.IsSigned bits) (word : Int) :
    (v.signedValue bits word).natAbs ≤ 2 ^ 256 := by
  have hbound : 2 ^ bits ≤ 2 ^ 256 := Nat.pow_le_pow_right (by decide) hsigned.bits_bounds.2
  have hpower : ((2 ^ bits : Nat) : Int) = 2 ^ bits := Int.natCast_pow 2 bits
  have hlow := BitVec.le_two_mul_toInt (x := BitVec.ofInt bits (word >>> (8 * v.offset).toNat))
  have hhigh := BitVec.two_mul_toInt_lt (x := BitVec.ofInt bits (word >>> (8 * v.offset).toNat))
  rw [signedValue]
  omega

end StorageVariable

/-- An entry shows a word by the bits of a signed variable, read without a sign. -/
structure StateEntry.ShowsUnsigned (declared : List StorageVariable) (v : StorageVariable) (bits : Nat) (word : Int)
    (entry : StateEntry) : Prop where
  typeName_eq : entry.typeName = "Signed Number (" ++ Argument.integerName true bits ++ ")"
  display_eq : entry.display = Word.numberText (Layout.shown declared v word)
  /-- It shows the value of the variable exactly if this is what the variable shows of the word. -/
  display_iff : entry.display = Numeral.decimal (v.signedValue bits word)
    ↔ Layout.shown declared v word = v.signedValue bits word
  /-- If the variable shares its slot or begins it, it does so exactly if the bits, read without a sign, are in
      the range of the type. -/
  inRange_iff : declared.countP (fun other => other.slot = v.slot) ≠ 1 ∨ v.offset = 0 →
    (entry.display = Numeral.decimal (v.signedValue bits word)
      ↔ Argument.InRange true bits (Layout.shown declared v word))

/-- A change gives a variable a number by the name of its type. -/
def StateChange.Types (v : StorageVariable) (c : StateChange) : Prop :=
  c.typeName = some (Word.friendlyType v.typeLabel) ∧ ∃ n, c.newValue = Numeral.hex n

theorem StateChange.Types.showsUnsigned {declared : List StorageVariable} {v : StorageVariable} {bits : Nat}
    {c : StateChange} {word : Int} (htypes : c.Types v) (hsigned : v.IsSigned bits)
    (hshown : Numeral.read? .hexadecimal c.newValue = some (Layout.shown declared v word)) (snapshot : Nat) :
    (StateEntry.ofChange snapshot c).ShowsUnsigned declared v bits word := by
  obtain ⟨htype, n, hvalue⟩ := htypes
  obtain ⟨hname, hboolean, haddress, hnumber⟩ := hsigned.friendlyType_eq
  rw [hvalue, Numeral.read?_hex] at hshown
  obtain rfl := Option.some.inj hshown
  have hdisplay : (StateEntry.ofChange snapshot c).display = Word.numberText (Layout.shown declared v word) := by
    rw [StateEntry.ofChange, hvalue, htype]
    exact Word.display_hex hboolean haddress hnumber _
  have hiff : (StateEntry.ofChange snapshot c).display = Numeral.decimal (v.signedValue bits word)
      ↔ Layout.shown declared v word = v.signedValue bits word := by
    rw [hdisplay]
    constructor
    · exact Word.numberText_eq_decimal
    · intro hsame
      rw [hsame]
      exact Word.numberText_of_le (hsigned.natAbs_signedValue_le word)
  refine ⟨?_, hdisplay, hiff, fun hplace => ?_⟩
  · have hsome : Word.friendlyType v.typeLabel ≠ "" := by
      intro hempty
      rw [hempty] at hnumber
      cases hnumber
    rw [StateEntry.ofChange, htype]
    exact (if_neg hsome).trans hname
  · rw [hiff, hsigned.signedValue_eq hplace, eq_comm]
    exact StorageVariable.bmod_eq_self_iff_inRange hsigned.bits_bounds.1 _

/-! ## The last change to a key -/

namespace History

/-- The current state applies all changes in their order. -/
theorem currentState_eq_foldl_changes (h : History) : h.currentState none
    = h.changes.foldl (fun state d => Projection.apply d.1.id state d.2) [] := by
  rw [changes, List.foldl_flatMap]
  simp only [List.foldl_map]
  rfl

/-- The last change to a key, with its snapshot. -/
def lastChange? (h : History) (key : String) : Option (Snapshot × StateChange) :=
  h.changes.reverse.find? (fun d => d.2.key = key)

/-- **The current state** has at a key what the last change to it leaves. -/
theorem lookup_currentState (h : History) (key : String) : (h.currentState none).lookup key
    = (h.lastChange? key).map (fun d => StateEntry.ofChange d.1.id d.2) := by
  rw [currentState_eq_foldl_changes, lastChange?]
  induction h.changes using List.reverseRecOn with
  | nil => rfl
  | append_singleton front d ih =>
    rw [List.foldl_concat, Projection.apply, List.reverse_concat]
    by_cases hkey : d.2.key = key
    · rw [hkey, Table.lookup_put_self]
      simp [hkey]
    · rw [Table.lookup_put_of_ne _ _ _ _ (Ne.symm hkey), ih]
      simp [hkey]

/-- The entry of a key is that of the last change with this key. -/
theorem exists_last_change {h : History} {key : String} {entry : StateEntry}
    (hentry : (h.currentState none).lookup key = some entry) :
    ∃ earlier s c later, h.changes = earlier ++ (s, c) :: later ∧ c.key = key
      ∧ entry = StateEntry.ofChange s.id c ∧ ∀ d ∈ later, d.2.key ≠ key := by
  rw [lookup_currentState] at hentry
  obtain ⟨⟨s, c⟩, hlast, rfl⟩ := Option.map_eq_some_iff.1 hentry
  obtain ⟨hkey, later, earlier, hchanges, hlater⟩ := List.find?_eq_some_iff_append.1 hlast
  refine ⟨earlier.reverse, s, c, later.reverse, ?_, of_decide_eq_true hkey, rfl, fun d hd => ?_⟩
  · rw [List.reverse_eq_iff.1 hchanges]
    simp
  · simpa using hlater d (List.mem_reverse.1 hd)

end History

/-! ## The types of changes -/

namespace StorageWrite

variable {declared : List StorageVariable} {hash : Except Fault (Option String)} {w : StorageWrite} {old : Int}
  {made : List StateChange}

/-- **A write** gives its part of the word to a variable by the name of its type. -/
theorem types_of_changes (hproper : Layout.Proper declared)
    (hok : w.changes (Layout.variablesAt declared w.slotText) hash old = .ok made) :
    ∀ c ∈ made, ∀ v ∈ declared, c.key = v.label → c.Types v := by
  have hhere : ∀ u ∈ Layout.variablesAt declared w.slotText, u ∈ declared := fun u hu =>
    ((Layout.mem_variablesAt_hex declared w.slot u).1 hu).1
  -- a change that names a variable has its label as key, and no other variable has this label
  have hnamed : ∀ u ∈ Layout.variablesAt declared w.slotText, ∀ (name : Option String) (before after : Int),
      ∀ v ∈ declared, (w.change name before after (some u.label) (Word.friendlyType u.typeLabel)).key = v.label →
        (w.change name before after (some u.label) (Word.friendlyType u.typeLabel)).Types v := by
    intro u hu name before after v hv hkey
    rw [StateChange.key_of_label _ u.label rfl (hproper.label_ne_empty u (hhere u hu))] at hkey
    obtain rfl := hproper.eq_of_label_eq (hhere u hu) hv hkey
    exact ⟨rfl, after, rfl⟩
  intro c hc v hv hkey
  cases hlist : Layout.variablesAt declared w.slotText with
  | nil =>
    rw [hlist] at hok
    obtain ⟨name, -, hmade⟩ := bind_eq_ok_iff.1 hok
    cases hmade
    rw [List.mem_singleton.1 hc] at hkey
    exact absurd hkey.symm (hproper.label_ne_slotKey hv w.slotText)
  | cons u others =>
    rw [hlist] at hok hnamed
    cases others with
    | nil =>
      obtain ⟨name, -, hmade⟩ := bind_eq_ok_iff.1 hok
      cases hmade
      rw [List.mem_singleton.1 hc] at hkey ⊢
      exact hnamed u List.mem_cons_self name _ _ v hv hkey
    | cons other rest =>
      have hshared : ¬ (u :: other :: rest).length ≤ 1 := by simp
      obtain ⟨member, hmember, name, before, after, -, -, rfl⟩ := exists_part_of_shared hok hshared c hc
      exact hnamed member hmember name before after v hv hkey

end StorageWrite

theorem Records.types {declared : List StorageVariable} {hash : Except Fault (Option String)}
    {carried : Int → Int} {recorded : List StorageWrite} {changes : List StateChange}
    (hrecords : Records declared hash carried recorded changes) (hproper : Layout.Proper declared) :
    ∀ c ∈ changes, ∀ v ∈ declared, c.key = v.label → c.Types v := by
  induction hrecords with
  | nothing => exact fun c hc => absurd hc List.not_mem_nil
  | further before hnew hmade ih =>
    exact List.forall_mem_append.2 ⟨ih, StorageWrite.types_of_changes hproper hmade⟩

namespace History

/-- Every change to a variable that is no address gives it a number by the name of its type, or it was
    simulated. An address is given the digits of one at first, which are no written word. -/
def Typed (declared : List StorageVariable) (h : History) : Prop :=
  ∀ d ∈ h.changes, d.1.IsSimulated
    ∨ ∀ v ∈ declared, d.2.key = v.label → v.typeLabel ≠ "address" → d.2.Types v

variable {declared : List StorageVariable} {h next : History} {s : Snapshot}

theorem Typed.concat (htyped : Typed declared h) (hsnapshots : next.snapshots = h.snapshots ++ [s])
    (hnew : s.IsSimulated ∨ ∀ c ∈ s.changes, ∀ v ∈ declared, c.key = v.label → v.typeLabel ≠ "address" →
      c.Types v) : Typed declared next := by
  unfold Typed
  rw [changes_of_snapshots hsnapshots]
  refine List.forall_mem_append.2 ⟨htyped, fun d hd => ?_⟩
  obtain ⟨c, hc, rfl⟩ := List.mem_map.1 hd
  exact hnew.imp_right (fun hchanges => hchanges c hc)

/-- What a trace that is replayed adds: its snapshot, which is none of a simulated call. -/
theorem traced_of_replay {settings : Settings} {document hash : Json}
    (hok : (h.replay settings document hash).result = .ok s) :
    (h.replay settings document hash).state.snapshots = h.snapshots ++ [s] ∧ ¬ s.IsSimulated := by
  unfold replay at hok ⊢
  dsimp only at hok ⊢
  cases hrun : Replay.run h.layout (hashOf hash (ParsedTrace.ofJson (some settings.traceLimit) document))
      settings.slotOnTop h.words (ParsedTrace.ofJson (some settings.traceLimit) document).entries with
  | error fault =>
    rw [hrun] at hok
    cases hok
  | ok r =>
    rw [hrun] at hok
    cases hhash : hashOf hash (ParsedTrace.ofJson (some settings.traceLimit) document) with
    | error fault =>
      rw [hhash] at hok
      cases hok
    | ok name =>
      rw [hhash] at hok
      cases hok
      refine ⟨rfl, fun hsimulated => ?_⟩
      have htype : some (Json.str "trace") = some (Json.str "simulation") := hsimulated
      simp at htype

theorem Typed.replay (htyped : Typed declared h) (hproper : Layout.Proper declared)
    (hlayout : h.layout = declared) {settings : Settings} {document hash : Json}
    (hok : (h.replay settings document hash).result = .ok s) :
    Typed declared (h.replay settings document hash).state := by
  obtain ⟨⟨name, hrecords⟩, -⟩ := records_of_replay hok
  rw [hlayout] at hrecords
  exact htyped.concat (traced_of_replay hok).1
    (.inr (fun c hc v hv hkey _ => hrecords.types hproper c hc v hv hkey))

theorem Typed.simulate (htyped : Typed declared h) (functions : List AbiFunction) (name arguments : Json)
    (given : Option Projection) (memory : Nat) :
    Typed declared (Simulation.run h functions name arguments given memory).state := by
  rcases afterSimulation_run h functions name arguments given memory with
    hsame | ⟨changes, function, values, hadded⟩
  · rw [hsame]
    exact htyped
  · rw [hadded]
    exact htyped.concat rfl (.inl rfl)

theorem typed_deploy (hproper : Layout.Proper h.layout) (hsnapshots : h.snapshots = []) :
    Typed h.layout h.deploy.state := by
  have hnone : Typed h.layout h := by
    rw [Typed, changes, hsnapshots]
    exact fun d hd => absurd hd List.not_mem_nil
  unfold deploy
  split
  · exact hnone
  · refine hnone.concat (s := ⟨h.snapshots.length, h.layout.map firstChange, none, _⟩) rfl (.inr ?_)
    intro c hc v hv hkey haddress
    obtain ⟨u, hu, rfl⟩ := List.mem_map.1 hc
    rw [StateChange.key_of_label _ u.label rfl (hproper.label_ne_empty u hu)] at hkey
    obtain rfl := hproper.eq_of_label_eq hu hv hkey
    exact ⟨rfl, 0, if_neg haddress⟩

end History

/-! ## Signed variables behind a trace -/

/-- A change concerns a variable: it is the variable's own, or it gives a word to the slot that the variable has
    to itself. -/
def StateChange.Concerns (declared : List StorageVariable) (v : StorageVariable) (c : StateChange) : Prop :=
  c.key = v.label ∨ c.slot = v.slotText ∧ Layout.variablesAt declared c.slot = [v]

/-- What was done to a variable last was simulated: among some changes is a simulated one that concerns it, and no
    change after that one is its own. -/
def StorageVariable.LastSimulated (declared : List StorageVariable) (past : List (Snapshot × StateChange))
    (v : StorageVariable) : Prop :=
  ∃ earlier s c later, past = earlier ++ (s, c) :: later ∧ s.IsSimulated ∧ c.Concerns declared v
    ∧ ∀ d ∈ later, d.2.key ≠ v.label

theorem StorageVariable.LeftBehind.lastSimulated {declared : List StorageVariable}
    {past : List (Snapshot × StateChange)} {v : StorageVariable} (hleft : v.LeftBehind declared past) :
    v.LastSimulated declared past := by
  obtain ⟨earlier, s, c, later, hpast, hsimulated, hkeeps, hlater⟩ := hleft
  refine ⟨earlier, s, c, later, hpast, hsimulated, ?_, hlater⟩
  by_contra hnone
  rw [StateChange.Concerns, not_or, not_and] at hnone
  exact hkeeps (.inl hnone)

namespace History

variable {declared : List StorageVariable} {h : History} {s : Snapshot} {v : StorageVariable}

/-- A simulated change that is the last one of a variable even behind the changes of a trace was so before it, and
    the trace makes no change to the variable. -/
theorem lastSimulated_of_append {past : List (Snapshot × StateChange)} {changes : List StateChange}
    {earlier later : List (Snapshot × StateChange)} {simulated : Snapshot} {c : StateChange}
    (hpast : past ++ changes.map (fun c => (s, c)) = earlier ++ (simulated, c) :: later)
    (htraced : ¬ s.IsSimulated) (hsimulated : simulated.IsSimulated) (hkey : c.key = v.label)
    (hlater : ∀ d ∈ later, d.2.key ≠ v.label) :
    v.LastSimulated declared past ∧ ∀ c ∈ changes, c.key ≠ v.label := by
  have hout : ∀ d ∈ changes.map (fun c => (s, c)), d.1 = s := by
    intro d hd
    obtain ⟨other, -, rfl⟩ := List.mem_map.1 hd
    rfl
  have hbefore : (simulated, c) ∉ changes.map (fun c => (s, c)) := by
    intro hmem
    rw [← hout _ hmem] at htraced
    exact htraced hsimulated
  rcases List.append_eq_append_iff.1 hpast with ⟨between, hearlier, hchanges⟩ | ⟨behind, hfront, hrest⟩
  · rw [hchanges] at hbefore
    exact absurd (List.mem_append_right _ List.mem_cons_self) hbefore
  · cases behind with
    | nil =>
      rw [List.nil_append] at hrest
      rw [← hrest] at hbefore
      exact absurd List.mem_cons_self hbefore
    | cons d behind =>
      rw [List.cons_append, List.cons.injEq] at hrest
      obtain ⟨rfl, rfl⟩ := hrest
      rw [List.forall_mem_append] at hlater
      refine ⟨⟨earlier, simulated, c, behind, hfront, hsimulated, .inl hkey, hlater.1⟩, fun c hc => ?_⟩
      exact hlater.2 (s, c) (List.mem_map_of_mem hc)

/-- **A trace** shows a signed variable to whose slot it writes by its bits without the sign, or what was done to
    the variable last stays simulated. -/
theorem Settled.showsUnsigned (hh : Settled declared h) (htyped : Typed declared h)
    (hproper : Layout.Proper declared) (settings : Settings) (document : Json) (given : Option String) :
    ∃ s, (h.replay settings document (Json.ofOption .str given)).result = .ok s
      ∧ ∀ v ∈ declared, ∀ bits, v.IsSigned bits → ∀ w,
        StorageWrite.last? (recognised settings document) v.slot = some w →
          (∃ entry, ((h.replay settings document (Json.ofOption .str given)).state.currentState none).lookup v.label
              = some entry ∧ entry.ShowsUnsigned declared v bits w.value)
            ∨ v.LastSimulated declared h.changes ∧ ∀ c ∈ s.changes, c.key ≠ v.label := by
  obtain ⟨s, next, hresult, hnext, -, hwords, hvariables⟩ := hh.replay hproper settings document given
  refine ⟨s, hresult, fun v hv bits hsigned w hlast => ?_⟩
  have hafter := htyped.replay hproper hh.layout_eq hresult
  obtain ⟨hsnapshots, htraced⟩ := traced_of_replay hresult
  have hchanges := changes_of_snapshots hsnapshots
  rw [hnext] at hafter hchanges ⊢
  rcases hvariables v hv with hstep | ⟨hleft, hnamed⟩
  · obtain ⟨entry, hentry, hread⟩ := Option.bind_eq_some_iff.1 hstep
    rw [StorageVariable.slotText, hwords v.slot w hlast] at hread
    obtain ⟨earlier, last, c, later, hsplit, hkey, rfl, hlater⟩ := exists_last_change hentry
    have hmem : (last, c) ∈ next.changes := by
      rw [hsplit]
      exact List.mem_append_right _ List.mem_cons_self
    rcases hafter (last, c) hmem with hsimulated | htypes
    · exact .inr (lastSimulated_of_append (hchanges.symm.trans hsplit) htraced hsimulated hkey hlater)
    · have haddress : v.typeLabel ≠ "address" := by
        intro haddress
        have hno := hsigned.friendlyType_eq.2.2.1
        rw [haddress] at hno
        exact absurd hno (by decide)
      exact .inl ⟨_, hentry, (htypes v hv hkey haddress).showsUnsigned hsigned hread last.id⟩
  · exact .inr ⟨hleft.lastSimulated, hnamed⟩

end History

namespace Session

variable {η : Type} {declared : List StorageVariable}

theorem typed_perform {s : Session η} (hs : History.Settled declared s.history)
    (htyped : History.Typed declared s.history) (hproper : Layout.Proper declared) (call : StorageCall) :
    History.Typed declared (s.perform call).state.history := by
  cases call with
  | applyTrace document hash =>
    obtain ⟨_, _, hresult, -⟩ := hs.replay hproper s.settings document hash
    exact htyped.replay hproper hs.layout_eq hresult
  | simulate name arguments given memory =>
    unfold perform simulate
    cases AbiFunction.ofAbi (.arr s.history.abi) with
    | error fault => exact htyped
    | ok functions => exact htyped.simulate functions name arguments given memory

theorem typed_afterCalls {s : Session η} (hs : History.Settled declared s.history)
    (htyped : History.Typed declared s.history) (hproper : Layout.Proper declared) (calls : List StorageCall) :
    History.Typed declared (s.afterCalls calls).history := by
  induction calls generalizing s with
  | nil => exact htyped
  | cons call rest ih => exact ih (settled_perform hs hproper call) (typed_perform hs htyped hproper call)

theorem typed_loadState {s : Session η} {contract : Contract}
    (hloaded : ∃ first, (s.loadState contract).result = .ok first)
    (hproper : Layout.Proper (s.loadState contract).state.history.layout) :
    History.Typed (s.loadState contract).state.history.layout (s.loadState contract).state.history := by
  obtain ⟨declared, hdeclared, hstate⟩ := loadState_ok hloaded
  obtain ⟨-, hsnapshots, -⟩ := History.loadLayout_ok hdeclared
  rw [hstate] at hproper ⊢
  rw [History.layout_deploy] at hproper ⊢
  exact History.typed_deploy hproper hsnapshots

/-- **Signed variables.** Load a contract with a proper layout and then apply traces and simulate calls in any
    order, failing ones included. A trace that is applied next succeeds, and every signed variable to whose slot it
    writes is shown by its bits of the last word written, read without a sign. This is the value of the variable
    exactly if these bits are in the range of its type. There is one exception: what was done to the variable last
    was simulated, and the trace makes no change to it. -/
theorem applyTrace_shows_unsigned (s : Session η) (contract : Contract) (calls : List StorageCall)
    (document : Json) (given : Option String) (hloaded : ∃ first, (s.loadState contract).result = .ok first)
    (hproper : Layout.Proper (s.loadState contract).state.history.layout) :
    let declared := (s.loadState contract).state.history.layout
    let before := (s.loadState contract).state.afterCalls calls
    let move := before.applyTrace document (Json.ofOption .str given)
    ∃ snapshot, move.result = .ok snapshot
      ∧ ∀ v ∈ declared, ∀ bits, v.IsSigned bits → ∀ w,
        StorageWrite.last? (History.recognised s.settings document) v.slot = some w →
          (∃ entry, (move.state.history.currentState none).lookup v.label = some entry
              ∧ entry.ShowsUnsigned declared v bits w.value)
            ∨ v.LastSimulated declared before.history.changes ∧ ∀ c ∈ snapshot.changes, c.key ≠ v.label := by
  intro declared before move
  have hsettled := settled_loadState hloaded hproper
  have htyped := typed_loadState hloaded hproper
  have hsettings : before.settings = s.settings := settings_afterCalls_of_loaded hloaded calls
  obtain ⟨snapshot, hresult, hshows⟩ := (settled_afterCalls hsettled hproper calls).showsUnsigned
    (typed_afterCalls hsettled htyped hproper calls) hproper before.settings document given
  refine ⟨snapshot, hresult, fun v hv bits hsigned w hlast => hshows v hv bits hsigned w ?_⟩
  rw [hsettings]
  exact hlast

/-! ## A variable below zero -/

/-- A contract with a signed variable of one byte. -/
def signedByte : Contract where
  name := .str "Drift"
  abi := .arr []
  creationCode := ""
  runtimeCode := ""
  creationMap := ""
  runtimeMap := ""
  storageLayout := .obj
    [ ("storage", .arr [.obj [("label", .str "delta"), ("slot", .str "0"), ("type", .str "t_int8")]]),
      ("types", .obj [("t_int8", .obj [("label", .str "int8"), ("numberOfBytes", .str "1")])]) ]
  sourcePath := ""
  fileIndex := .null
  methodIdentifiers := .obj []

/-- A session with the contract. -/
def signedByteLoaded : Move Unit (Except Fault (Option Snapshot)) :=
  (begin Settings.standard Hub.empty : Session Unit).loadState signedByte

/-- A trace that writes minus one to the variable. -/
def signedByteTrace : Json :=
  .obj [("structLogs", .arr [.obj [("pc", .int 0), ("op", .str "SSTORE"),
    ("stack", .arr [.str "0x0", .str "0xff"])]])]

theorem signedByte_loaded : ∃ first, signedByteLoaded.result = .ok first :=
  ⟨_, rfl⟩

theorem layout_signedByte :
    signedByteLoaded.state.history.layout = [⟨0, "delta", "t_int8", "int8", 0, 1⟩] := rfl

theorem signedByte_proper : Layout.Proper signedByteLoaded.state.history.layout := by
  rw [layout_signedByte]
  refine ⟨?_, ?_, ?_, ?_⟩ <;> decide

theorem isSigned_delta : StorageVariable.IsSigned ⟨0, "delta", "t_int8", "int8", 0, 1⟩ 8 :=
  ⟨List.mem_cons_self, rfl, rfl⟩

theorem applyTrace_shows_unsigned_signedByte :
    let declared := signedByteLoaded.state.history.layout
    let before := signedByteLoaded.state.afterCalls [.applyTrace .null none]
    let move := before.applyTrace signedByteTrace (Json.ofOption .str none)
    (∃ first, signedByteLoaded.result = .ok first)
      ∧ Layout.Proper signedByteLoaded.state.history.layout
      ∧ ∃ snapshot, move.result = .ok snapshot
        ∧ ∀ v ∈ declared, ∀ bits, v.IsSigned bits → ∀ w,
          StorageWrite.last? (History.recognised Settings.standard signedByteTrace) v.slot = some w →
            (∃ entry, (move.state.history.currentState none).lookup v.label = some entry
                ∧ entry.ShowsUnsigned declared v bits w.value)
              ∨ v.LastSimulated declared before.history.changes ∧ ∀ c ∈ snapshot.changes, c.key ≠ v.label :=
  ⟨signedByte_loaded, signedByte_proper,
    applyTrace_shows_unsigned (begin Settings.standard Hub.empty) signedByte [.applyTrace .null none]
      signedByteTrace none signedByte_loaded signedByte_proper⟩

/-- The sign is lost: after minus one was written to a signed byte, its entry shows 255. -/
theorem applyTrace_loses_sign :
    let declared := signedByteLoaded.state.history.layout
    let move := signedByteLoaded.state.applyTrace signedByteTrace (Json.ofOption .str none)
    Layout.Proper declared ∧ (∃ first, signedByteLoaded.result = .ok first)
      ∧ (∃ snapshot, move.result = .ok snapshot)
      ∧ ∃ v ∈ declared, v.IsSigned 8
        ∧ ∃ w, StorageWrite.last? (History.recognised Settings.standard signedByteTrace) v.slot = some w
          ∧ Numeral.decimal (v.signedValue 8 w.value) = "-1"
          ∧ ∃ entry, (move.state.history.currentState none).lookup v.label = some entry
            ∧ entry.display = "255" := by
  intro declared move
  have hentries : (ParsedTrace.ofJson (some Settings.standard.traceLimit) signedByteTrace).entries
      = [⟨0, "SSTORE", 0, none, 1, ["0x0", "0xff"]⟩] := rfl
  have hhash : History.hashOf (Json.ofOption .str none)
      (ParsedTrace.ofJson (some Settings.standard.traceLimit) signedByteTrace) = .ok none := rfl
  have hwrite : StorageWrite.ofEntry? Settings.standard.slotOnTop ⟨0, "SSTORE", 0, none, 1, ["0x0", "0xff"]⟩
      = some ⟨0, 0xff, 0, 1⟩ := rfl
  have hheld : signedByteLoaded.state.history.words.at (StorageWrite.slotText ⟨0, 0xff, 0, 1⟩) = 0 :=
    Std.HashMap.getD_empty
  have hchanges : StorageWrite.changes ⟨0, 0xff, 0, 1⟩
      (Layout.variablesAt declared (StorageWrite.slotText ⟨0, 0xff, 0, 1⟩)) (.ok none) 0
        = .ok [StorageWrite.change ⟨0, 0xff, 0, 1⟩ none 0 0xff (some "delta") (Word.friendlyType "int8")] := by
    rw [show declared = _ from layout_signedByte]
    rfl
  have hlast : StorageWrite.last? (History.recognised Settings.standard signedByteTrace) 0
      = some ⟨0, 0xff, 0, 1⟩ := by
    rw [History.recognised_of_entries_singleton hentries hwrite]
    rfl
  obtain ⟨r, hrun, hmade⟩ := Replay.run_singleton hwrite hheld (.inl (by decide)) hchanges
  rw [← hentries] at hrun
  obtain ⟨s, hresult, hleaves⟩ := History.replay_of_run hhash hrun
  refine ⟨signedByte_proper, signedByte_loaded, ⟨s, hresult⟩, ⟨0, "delta", "t_int8", "int8", 0, 1⟩,
    List.mem_cons_self, isSigned_delta, ⟨0, 0xff, 0, 1⟩, hlast, by decide, ?_⟩
  have hstate := hleaves.currentState_eq
  rw [Replay.stateAfter, hmade] at hstate
  exact ⟨_, congrArg (fun state => state.lookup "delta") hstate, by decide +kernel⟩

end Session

end EvmScope
