import Mathlib.Data.List.Forall2
import Mathlib.Data.Nat.Digits.Defs
import Mathlib.Tactic.IntervalCases
import SddsReceiver.Network.SocketTable
import SddsReceiver.Proofs.Words
import SddsReceiver.Text.Hex

/-!
# Reading the host's table of sockets

A line of the table is faulty for a port when it has fields enough and its own port cannot be
read, or is that port and the length of its receive queue cannot be read. The table can be read
for the port exactly when no line under the header is faulty. From a table that lists entries,
written with any blanks and with short lines in between, the lengths of the entries of the port
are then what adds up, and the queue columns of all others need not even be numbers.

Hexadecimal numbers are told by the digits that they are written in, in either case and with any
zeros in front.
-/
namespace SddsReceiver

namespace Text.Hex

/-- The character is the digit, in lower or in upper case. -/
def Writes (c : Char) (d : Nat) : Prop := d < 16 ∧ (c = digit d ∨ c = (digit d).toUpper)

instance : DecidableRel Writes := fun _ _ => inferInstanceAs (Decidable (_ ∧ _))

theorem digit?_eq_some_iff {c : Char} {d : Nat} : Decimal.digit? 16 c = some d ↔ Writes c d := by
  constructor
  · intro h
    have hle : ∀ a b : Char, a ≤ b ↔ a.toNat ≤ b.toNat := fun _ _ => Iff.rfl
    have hchar : c = Char.ofNat c.toNat := (Char.ofNat_toNat c).symm
    simp only [Decimal.digit?, hle, Char.reduceToNat] at h
    generalize c.toNat = n at h hchar
    subst hchar
    split_ifs at h with hdecimal _ hlower _ hupper
    · obtain rfl : n - 48 = d := Option.some.inj h
      obtain ⟨k, rfl⟩ := Nat.exists_eq_add_of_le hdecimal.1
      exact ⟨by omega, .inl (by rw [digit, if_pos (by omega), Nat.add_sub_cancel_left])⟩
    · obtain rfl : n - 87 = d := Option.some.inj h
      exact ⟨by omega, .inl (by rw [digit, if_neg (by omega), Nat.add_sub_cancel' (by omega)])⟩
    · obtain ⟨hfirst, hlast⟩ := hupper
      interval_cases n <;> cases h <;> decide
    · omega
  · rintro ⟨hd, hc⟩
    interval_cases d <;> rcases hc with rfl | rfl <;> decide

/-- The characters are the digits of the number, most significant first. -/
def Spells (text : List Char) (n : Nat) : Prop :=
  text ≠ [] ∧ ∃ digits, List.Forall₂ Writes text digits ∧ n = Nat.ofDigits 16 digits.reverse

/-- The text spells the number, perhaps behind a plus sign. -/
def Denotes (text : List Char) (n : Nat) : Prop :=
  Spells text n ∨ ∃ digits, text = '+' :: digits ∧ Spells digits n

theorem readFrom?_eq_some_iff {value n : Nat} {text : List Char} :
    Decimal.readFrom? 16 value text = some n ↔
      ∃ digits, List.Forall₂ Writes text digits ∧
        n = digits.foldl (fun m d => m * 16 + d) value := by
  induction text generalizing value with
  | nil => simp [Decimal.readFrom?, eq_comm]
  | cons c text ih =>
      rw [Decimal.readFrom?, Option.bind_eq_some_iff]
      simp only [List.forall₂_cons_left_iff, ih, digit?_eq_some_iff]
      constructor
      · rintro ⟨d, hd, digits, hdigits, hn⟩
        exact ⟨d :: digits, ⟨d, digits, hd, hdigits, rfl⟩, hn⟩
      · rintro ⟨_, ⟨d, digits, hd, hdigits, rfl⟩, hn⟩
        exact ⟨d, hd, digits, hdigits, hn⟩

theorem natural?_eq_some_iff {text : List Char} {n : Nat} :
    Decimal.natural? 16 text = some n ↔ Spells text n := by
  have hfold : ∀ digits : List Nat,
      Nat.ofDigits 16 digits.reverse = digits.foldl (fun m d => m * 16 + d) 0 := by
    intro digits
    rw [Nat.ofDigits_eq_foldr, List.foldr_reverse]
    congr
    funext m d
    rw [Nat.cast_id, Nat.add_comm, Nat.mul_comm]
  rw [Decimal.natural?, Spells]
  by_cases h : text = []
  · simp [h]
  · rw [if_neg (by simpa using h), readFrom?_eq_some_iff]
    simp only [h, hfold, ne_eq, not_false_eq_true, true_and]

theorem not_mem_of_spells {c : Char} (hc : Decimal.digit? 16 c = none) {text : List Char}
    {n : Nat} (h : Spells text n) : c ∉ text := by
  obtain ⟨-, digits, hdigits, -⟩ := h
  induction hdigits with
  | nil => exact List.not_mem_nil
  | cons hwrites _ ih =>
      rw [List.mem_cons, not_or]
      refine ⟨?_, ih⟩
      rintro rfl
      rw [← digit?_eq_some_iff, hc] at hwrites
      cases hwrites

theorem digit?_plus : Decimal.digit? 16 '+' = none := by decide

theorem denotes_plus {digits : List Char} {n : Nat} :
    Denotes ('+' :: digits) n ↔ Spells digits n := by
  constructor
  · rintro (h | ⟨_, hdigits, h⟩)
    · exact absurd List.mem_cons_self (not_mem_of_spells digit?_plus h)
    · rwa [(List.cons.inj hdigits).2]
  · exact fun h => .inr ⟨digits, rfl, h⟩

theorem denotes_of_ne_plus {text : List Char} (htext : ∀ digits, text ≠ '+' :: digits) {n : Nat} :
    Denotes text n ↔ Spells text n :=
  or_iff_left fun ⟨digits, hdigits, _⟩ => htext digits hdigits

theorem value_le_of_readFrom? {value n : Nat} {text : List Char}
    (h : Decimal.readFrom? 16 value text = some n) : value ≤ n := by
  induction text generalizing value with
  | nil => exact (Option.some.inj h).le
  | cons c text ih =>
      rw [Decimal.readFrom?, Option.bind_eq_some_iff] at h
      obtain ⟨d, -, hrest⟩ := h
      have hle := ih hrest
      omega

end Text.Hex

namespace Network
open Text

/-- The limit is tested after each digit, but only the whole number matters. -/
theorem readFrom_eq_ok_iff {limit value n : Nat} {text : List Char} (h : value ≤ limit) :
    Numeral.readFrom 16 limit value text = .ok n ↔
      Decimal.readFrom? 16 value text = some n ∧ n ≤ limit := by
  induction text generalizing value with
  | nil =>
      rw [Numeral.readFrom, Decimal.readFrom?, Except.ok.injEq, Option.some.injEq]
      exact ⟨fun hn => ⟨hn, hn ▸ h⟩, And.left⟩
  | cons c text ih =>
      rw [Numeral.readFrom, Decimal.readFrom?]
      cases Decimal.digit? 16 c with
      | none => simp
      | some d =>
          simp only [Option.bind_some]
          by_cases hnext : value * 16 + d ≤ limit
          · rw [if_pos hnext, ih hnext]
          · rw [if_neg hnext]
            have hlarge : ¬ (Decimal.readFrom? 16 (value * 16 + d) text = some n ∧ n ≤ limit) :=
              fun ⟨hread, hn⟩ => hnext ((Hex.value_le_of_readFrom? hread).trans hn)
            simp only [hlarge, reduceCtorEq]

theorem readFrom_zero_eq_ok_iff {limit n : Nat} {text : List Char} (h : text ≠ []) :
    Numeral.readFrom 16 limit 0 text = .ok n ↔ Hex.Spells text n ∧ n ≤ limit := by
  rw [readFrom_eq_ok_iff limit.zero_le, ← Hex.natural?_eq_some_iff, Decimal.natural?,
    if_neg (by simpa using h)]

theorem read_eq_ok_iff {limit n : Nat} {text : List Char} :
    Numeral.read 16 limit text = .ok n ↔ Hex.Denotes text n ∧ n ≤ limit := by
  unfold Numeral.read
  split
  next =>
    have hnone : ¬ Hex.Denotes [] n := by simp [Hex.Denotes, Hex.Spells]
    simp [hnone]
  next =>
    have hnone : ¬ Hex.Denotes ['+'] n := by simp [Hex.denotes_plus, Hex.Spells]
    simp [hnone]
  next digits hdigits => rw [Hex.denotes_plus, readFrom_zero_eq_ok_iff hdigits]
  next hne _ hplus =>
    rw [Hex.denotes_of_ne_plus hplus, readFrom_zero_eq_ok_iff hne]

/-! ## Fields of a line -/

/-- What follows the last colon of the field is the number of the port. -/
def NamesPort (field : List Char) (port : Nat) : Prop :=
  ∃ address digits, field = address ++ ':' :: digits ∧ ':' ∉ digits ∧
    Hex.Denotes digits port ∧ port < UInt16.size

/-- What follows the first colon of the column is the length of the receive queue. -/
def NamesQueue (column : List Char) (length : Nat) : Prop :=
  ∃ sending digits, column = sending ++ ':' :: digits ∧ ':' ∉ sending ∧
    Hex.Denotes digits length ∧ length < UInt64.size

theorem numberAfter_eq_ok_iff {found : Option (List Char)} {limit n : Nat}
    {missing : SocketTableFault} {notHex : NumeralFault → SocketTableFault} :
    (match found with
      | none => .error missing
      | some text =>
          match Numeral.read 16 limit text with
          | .error fault => .error (notHex fault)
          | .ok number => .ok number) = Except.ok n ↔
      ∃ text, found = some text ∧ Hex.Denotes text n ∧ n ≤ limit := by
  cases found with
  | none => simp
  | some text =>
      simp only [Option.some.injEq, exists_eq_left', ← read_eq_ok_iff]
      cases Numeral.read 16 limit text <;> simp

theorem localPort_eq_ok_iff {field : List Char} {port : Nat} :
    localPort field = .ok port ↔ NamesPort field port := by
  have hread : localPort field = .ok port ↔
      ∃ text, afterLast? ':' field = some text ∧ Hex.Denotes text port ∧ port ≤ 0xffff :=
    numberAfter_eq_ok_iff
  simp only [hread, afterLast?_eq_some_iff]
  constructor
  · rintro ⟨digits, ⟨address, hfield, hcolon⟩, hnumber, hlimit⟩
    exact ⟨address, digits, hfield, hcolon, hnumber, Nat.lt_succ_of_le hlimit⟩
  · rintro ⟨address, digits, hfield, hcolon, hnumber, hlimit⟩
    exact ⟨digits, ⟨address, hfield, hcolon⟩, hnumber, Nat.le_of_lt_succ hlimit⟩

theorem receiveQueue_eq_ok_iff {column : List Char} {length : Nat} :
    receiveQueue column = .ok length ↔ NamesQueue column length := by
  have hread : receiveQueue column = .ok length ↔
      ∃ text, afterFirst? ':' column = some text ∧ Hex.Denotes text length ∧
        length ≤ 0xffffffffffffffff :=
    numberAfter_eq_ok_iff
  simp only [hread, afterFirst?_eq_some_iff]
  constructor
  · rintro ⟨digits, ⟨sending, hcolumn, hcolon⟩, hnumber, hlimit⟩
    exact ⟨sending, digits, hcolumn, hcolon, hnumber, Nat.lt_succ_of_le hlimit⟩
  · rintro ⟨sending, digits, hcolumn, hcolon, hnumber, hlimit⟩
    exact ⟨digits, ⟨sending, hcolumn, hcolon⟩, hnumber, Nat.le_of_lt_succ hlimit⟩

/-! ## Lines of the table -/

/-- The line has five fields or more and cannot be read for the port: its own port is no number,
or it is that port and the length of the queue is no number. -/
def Faulty (port : UInt16) (line : List Char) : Prop :=
  ∃ fields address column, SetOut fields line ∧
    fields[1]? = some address ∧ fields[4]? = some column ∧
    ((∀ p, ¬ NamesPort address p) ∨
      NamesPort address port.toNat ∧ ∀ length, ¬ NamesQueue column length)

theorem lineDepth_of_short {fields : List (List Char)} {line : List Char}
    (h : SetOut fields line) (hshort : fields.length < 5) (port : UInt16) :
    lineDepth port line = .ok 0 := by
  rw [lineDepth, words_eq_iff.mpr h]
  split
  · simp only [List.length_cons] at hshort
    omega
  · rfl

theorem lineDepth_of_full {fields : List (List Char)} {line address column : List Char}
    (h : SetOut fields line) (haddress : fields[1]? = some address)
    (hcolumn : fields[4]? = some column) (port : UInt16) :
    lineDepth port line = match localPort address with
      | .error fault => .error fault
      | .ok found => if found = port.toNat then receiveQueue column else .ok 0 := by
  rw [lineDepth, words_eq_iff.mpr h]
  rcases fields with _ | ⟨_, _ | ⟨_, _ | ⟨_, _ | ⟨_, _ | ⟨_, _⟩⟩⟩⟩⟩
  case cons.cons.cons.cons.cons =>
    obtain rfl := Option.some.inj haddress
    obtain rfl := Option.some.inj hcolumn
    rfl
  all_goals cases hcolumn

theorem exists_error_iff {ε β : Type} {e : Except ε β} :
    (∃ fault, e = .error fault) ↔ ∀ b, e ≠ .ok b := by
  cases e <;> simp

theorem lineDepth_of_full_eq_error_iff {fields : List (List Char)}
    {line address column : List Char} (h : SetOut fields line)
    (haddress : fields[1]? = some address) (hcolumn : fields[4]? = some column) (port : UInt16) :
    (∃ fault, lineDepth port line = .error fault) ↔
      (∀ p, ¬ NamesPort address p) ∨
        NamesPort address port.toNat ∧ ∀ length, ¬ NamesQueue column length := by
  simp only [lineDepth_of_full h haddress hcolumn, ← localPort_eq_ok_iff,
    ← receiveQueue_eq_ok_iff]
  cases localPort address with
  | error fault => simp
  | ok found =>
      by_cases hfound : found = port.toNat
      · simp [hfound, exists_error_iff]
      · simp [hfound]

theorem lineDepth_eq_error_iff {port : UInt16} {line : List Char} :
    (∃ fault, lineDepth port line = .error fault) ↔ Faulty port line := by
  constructor
  · rintro ⟨fault, hfault⟩
    have hwords : SetOut (words line) line := words_eq_iff.mp rfl
    have hlong : 5 ≤ (words line).length := by
      by_contra hshort
      rw [lineDepth_of_short hwords (Nat.lt_of_not_le hshort)] at hfault
      cases hfault
    have haddress : (words line)[1]? = some (words line)[1] := List.getElem?_eq_getElem _
    have hcolumn : (words line)[4]? = some (words line)[4] := List.getElem?_eq_getElem _
    exact ⟨words line, _, _, hwords, haddress, hcolumn,
      (lineDepth_of_full_eq_error_iff hwords haddress hcolumn port).mp ⟨fault, hfault⟩⟩
  · rintro ⟨fields, address, column, hfields, haddress, hcolumn, hfaulty⟩
    exact (lineDepth_of_full_eq_error_iff hfields haddress hcolumn port).mpr hfaulty

theorem linesDepth_eq_error_iff {port : UInt16} {lines : List (List Char)} :
    (∃ fault, linesDepth port lines = .error fault) ↔ ∃ line ∈ lines, Faulty port line := by
  induction lines with
  | nil => simp [linesDepth]
  | cons line lines ih =>
      rw [List.exists_mem_cons_iff, ← ih, ← lineDepth_eq_error_iff, linesDepth]
      cases lineDepth port line with
      | error fault => simp
      | ok depth => cases linesDepth port lines <;> simp

/-! ## Tables that list entries -/

structure SocketEntry where
  slot : List Char
  address : List Char
  port : UInt16
  remote : List Char
  state : List Char
  /-- Bytes that wait to be sent, and bytes that wait to be received. -/
  sending : Nat
  receiving : Nat
  further : List (List Char)

namespace SocketEntry

/-- The line shows the entry, and the queues too if the entry is of the port that is asked for.
Any other queue column will do for the other ports. -/
def ShownFor (asked : UInt16) (e : SocketEntry) (line : List Char) : Prop :=
  ∃ portDigits column,
    SetOut (e.slot :: (e.address ++ ':' :: portDigits) :: e.remote :: e.state :: column ::
      e.further) line ∧
    Hex.Spells portDigits e.port.toNat ∧
    (e.port = asked → ∃ sending receiving, column = sending ++ ':' :: receiving ∧
      Hex.Spells sending e.sending ∧ Hex.Spells receiving e.receiving)

/-- Bytes that wait to be received on a port. -/
def received (port : UInt16) (entries : List SocketEntry) : Nat :=
  ((entries.filter fun e => e.port = port).map receiving).sum

theorem received_cons (port : UInt16) (e : SocketEntry) (entries : List SocketEntry) :
    received port (e :: entries) =
      (if e.port = port then e.receiving else 0) + received port entries := by
  rw [received, List.filter_cons]
  split_ifs <;> simp_all [received]

end SocketEntry

open SocketEntry

/-- The lines show the entries in this order, with short lines before, between and after. -/
inductive Listing (asked : UInt16) : List SocketEntry → List (List Char) → Prop
  | empty : Listing asked [] []
  | short {fields : List (List Char)} {line : List Char} {entries : List SocketEntry}
      {lines : List (List Char)} :
      SetOut fields line → fields.length < 5 → Listing asked entries lines →
      Listing asked entries (line :: lines)
  | entry {e : SocketEntry} {line : List Char} {entries : List SocketEntry}
      {lines : List (List Char)} :
      e.ShownFor asked line → Listing asked entries lines →
      Listing asked (e :: entries) (line :: lines)

theorem lineDepth_of_shownFor {port : UInt16} {e : SocketEntry} {line : List Char}
    (h : e.ShownFor port line) (hfits : e.port = port → e.receiving < UInt64.size) :
    lineDepth port line = .ok (if e.port = port then e.receiving else 0) := by
  obtain ⟨portDigits, column, hfields, hport, hcolumn⟩ := h
  have hcolon : ':' ∉ portDigits := Hex.not_mem_of_spells (by decide) hport
  have hnamed : localPort (e.address ++ ':' :: portDigits) = .ok e.port.toNat :=
    localPort_eq_ok_iff.mpr ⟨_, _, rfl, hcolon, .inl hport, e.port.toNat_lt⟩
  rw [lineDepth_of_full hfields rfl rfl, hnamed]
  simp only [UInt16.toNat_inj]
  split_ifs with hasked
  · obtain ⟨sending, receiving, rfl, hsending, hreceiving⟩ := hcolumn hasked
    have hfirst : ':' ∉ sending := Hex.not_mem_of_spells (by decide) hsending
    exact receiveQueue_eq_ok_iff.mpr ⟨_, _, rfl, hfirst, .inl hreceiving, hfits hasked⟩
  · rfl

theorem linesDepth_of_listing {port : UInt16} {entries : List SocketEntry}
    {lines : List (List Char)} (h : Listing port entries lines)
    (hfits : received port entries < UInt64.size) :
    linesDepth port lines = .ok (received port entries) := by
  induction h with
  | empty => rfl
  | short hfields hshort _ ih =>
      rw [linesDepth, lineDepth_of_short hfields hshort, ih hfits]
      simp only [Nat.zero_add, Nat.mod_eq_of_lt hfits]
  | entry hshown _ ih =>
      rw [received_cons] at hfits
      rw [linesDepth, lineDepth_of_shownFor hshown, ih (by omega), received_cons]
      · simp only [Nat.mod_eq_of_lt hfits]
      · intro hasked
        rw [if_pos hasked] at hfits
        omega

/-- The text is one header line and a listing of the entries, for what is asked. -/
def IsTable (asked : UInt16) (entries : List SocketEntry) (text : List Char) : Prop :=
  ∃ header lines, Listing asked entries lines ∧ (∀ line ∈ header :: lines, '\n' ∉ line) ∧
    text = ['\n'].intercalate (header :: lines)

theorem receiveDepth_eq (table : String) (port : UInt16) :
    receiveDepth table port = linesDepth port (table.toList.splitOn '\n').tail := by
  rw [receiveDepth, pieces_eq_splitOn, List.drop_one]

/-- From a text that is a table of entries, with any blanks between their fields and with short
lines in between, the lengths of the receive queues of the entries of a port add up, whatever the
queue columns of the others hold, as long as the sum fits into 64 bits. And from any text nothing
can be read for a port exactly when a line under the first one is faulty. -/
theorem receiveDepth_reads_table (port : UInt16) (text : String) :
    (∀ entries, IsTable port entries text.toList → received port entries < UInt64.size →
        receiveDepth text port = .ok (received port entries)) ∧
      ((∃ fault, receiveDepth text port = .error fault) ↔
        ∃ line ∈ (text.toList.splitOn '\n').tail, Faulty port line) := by
  rw [receiveDepth_eq]
  refine ⟨?_, linesDepth_eq_error_iff⟩
  rintro entries ⟨header, lines, hlisting, hlines, htext⟩ hfits
  rw [htext, List.splitOn_intercalate '\n' hlines (List.cons_ne_nil _ _), List.tail_cons]
  exact linesDepth_of_listing hlisting hfits

/-- Two sockets of one port, a third whose queue column is no number, and a blank line. -/
theorem receiveDepth_reads_table_of_three :
    let table :=
      "header\n 0: 7F:7337 0:0 07 0:4380 9\n\n1: 0:0035\t0:0 07 none\n2: 0:7337 0:0 07 ff:100\n"
    let first : SocketEntry :=
      ⟨"0:".toList, "7F".toList, 0x7337, "0:0".toList, "07".toList, 0, 0x4380, [['9']]⟩
    let second : SocketEntry :=
      ⟨"1:".toList, "0".toList, 0x35, "0:0".toList, "07".toList, 0, 0, []⟩
    let third : SocketEntry :=
      ⟨"2:".toList, "0".toList, 0x7337, "0:0".toList, "07".toList, 0xff, 0x100, []⟩
    (IsTable 0x7337 [first, second, third] table.toList ∧
        received 0x7337 [first, second, third] < UInt64.size) ∧
      receiveDepth table 0x7337 = .ok 17536 := by
  intro table first second third
  have hfirst : first.ShownFor 0x7337 " 0: 7F:7337 0:0 07 0:4380 9".toList :=
    ⟨"7337".toList, "0:4380".toList, words_eq_iff.mp (by decide),
      Hex.natural?_eq_some_iff.mp (by decide), fun _ => ⟨['0'], "4380".toList, by decide,
        Hex.natural?_eq_some_iff.mp (by decide), Hex.natural?_eq_some_iff.mp (by decide)⟩⟩
  have hsecond : second.ShownFor 0x7337 "1: 0:0035\t0:0 07 none".toList :=
    ⟨"0035".toList, "none".toList, words_eq_iff.mp (by decide),
      Hex.natural?_eq_some_iff.mp (by decide), fun hport => absurd hport (by decide)⟩
  have hthird : third.ShownFor 0x7337 "2: 0:7337 0:0 07 ff:100".toList :=
    ⟨"7337".toList, "ff:100".toList, words_eq_iff.mp (by decide),
      Hex.natural?_eq_some_iff.mp (by decide), fun _ => ⟨"ff".toList, "100".toList, by decide,
        Hex.natural?_eq_some_iff.mp (by decide), Hex.natural?_eq_some_iff.mp (by decide)⟩⟩
  have hlisting : Listing 0x7337 [first, second, third]
      [" 0: 7F:7337 0:0 07 0:4380 9".toList, [], "1: 0:0035\t0:0 07 none".toList,
        "2: 0:7337 0:0 07 ff:100".toList, []] :=
    .entry hfirst (.short .empty (by decide) (.entry hsecond (.entry hthird
      (.short .empty (by decide) .empty))))
  have htable : IsTable 0x7337 [first, second, third] table.toList :=
    ⟨"header".toList, _, hlisting, by decide, by decide⟩
  have hfits : received 0x7337 [first, second, third] < UInt64.size := by decide
  exact ⟨⟨htable, hfits⟩, (receiveDepth_reads_table 0x7337 table).1 _ htable hfits⟩

end Network

end SddsReceiver
