import CubebOss.Collection
import Mathlib.Data.List.Infix
import Mathlib.Data.Nat.Digits

/-!
This file models how the FreeBSD branch of `oss_enumerate_devices` reads a line of the sound
status file `/dev/sndstat`. A line of the kernel's section reads

    pcm0: <Realtek ALC892 (Rear Analog)> (play/rec) default

and a line of the userspace section starts with the device's name instead of `pcmN`. The loop
cuts the line at the first `:`, then at the first `<` after it, the first `>` after that, the
first `(` after that and the first `)` after that: the description is what stands between `<`
and `>`, the directions what stands between `(` and `)`. A kernel line must start with `pcm`
and a unit that `sscanf` reads; a userspace name must leave room for `/dev/` in a device node.

The lines accepted are exactly those cut by the five delimiters with each piece free of the
delimiter that ends it, and the pieces are read back as they were written
(`sndstatDevice_eq_some_iff`). A unit is read back modulo `2 ^ 32` (`sndstatDevice_pcm`), and
every device node fits in an `oss_devnode_t` with its NUL (`sndstatDevice_devname_fits`).
-/

namespace Cubeb.Oss

/-! ### C strings -/

/-- `sizeof(oss_devnode_t)`: `sys/soundcard.h` declares a device node as `char[32]`. -/
def ossDevnodeSize : Nat := 32

/-- The C string in the buffer `getline` fills: its characters up to the first NUL. -/
def cString (line : List Char) : List Char :=
  line.takeWhile fun c => c != Char.ofNat 0

/-- `strchr(s, c)` on a C string: the text before the first `c` and the text after it, or
`none` for `NULL`. -/
def strchr (c : Char) : List Char → Option (List Char × List Char)
  | [] => none
  | d :: rest =>
    if d = c then some ([], rest)
    else (strchr c rest).map fun cut => (d :: cut.1, cut.2)

/-- `strnstr(big, little, len)` over the `len` characters of a field that holds no NUL: whether
`little` occurs in it. -/
def strnstr (big little : List Char) : Bool :=
  decide (little <:+: big)

/-- A C string is the whole of a text without a NUL, and then of what follows it. -/
theorem cString_append {text : List Char} (noNul : Char.ofNat 0 ∉ text) (rest : List Char) :
    cString (text ++ rest) = text ++ cString rest :=
  List.takeWhile_append_of_pos fun c member => by
    simpa using fun isNul : c = Char.ofNat 0 => noNul (isNul ▸ member)

/-- `strchr` finds `c` exactly where a text without `c` ends: the round trip of a cut. -/
theorem strchr_eq_some_iff (c : Char) :
    ∀ {line pre post : List Char},
      strchr c line = some (pre, post) ↔ line = pre ++ c :: post ∧ c ∉ pre
  | [], pre, post => by simp [strchr]
  | d :: rest, pre, post => by
    by_cases found : d = c
    · subst found
      cases pre with
      | nil => simp [strchr, eq_comm]
      | cons e pre =>
        simp only [strchr, if_true, Option.some.injEq, Prod.mk.injEq, List.cons_append,
          List.cons.injEq, List.mem_cons, not_or]
        exact ⟨fun ⟨empty, _⟩ => absurd empty (List.cons_ne_nil e pre).symm,
          fun ⟨⟨same, _⟩, different, _⟩ => absurd same different⟩
    · cases pre with
      | nil => simp [strchr, found]
      | cons e pre =>
        simp only [strchr, found, if_false, Option.map_eq_some', Prod.exists, Prod.mk.injEq,
          List.cons_append, List.cons.injEq, List.mem_cons, not_or, strchr_eq_some_iff c]
        constructor
        · rintro ⟨pre', post', ⟨shape, absent⟩, ⟨rfl, rfl⟩, rfl⟩
          exact ⟨⟨rfl, shape⟩, fun same => found same.symm, absent⟩
        · rintro ⟨⟨rfl, shape⟩, -, absent⟩
          exact ⟨pre, post, ⟨shape, absent⟩, ⟨rfl, rfl⟩, rfl⟩

/-! ### `sscanf` and `snprintf` of a unit -/

/-- `isspace` in the C locale: space, tab, newline, vertical tab, form feed, carriage return. -/
def isSpace (c : Char) : Bool :=
  c == ' ' || c == '\t' || c == '\n' || c == Char.ofNat 11 || c == Char.ofNat 12 || c == '\r'

/-- One step of reading decimal digits: shift the value and add the digit. -/
def decimalStep (value : Nat) (d : Char) : Nat := value * 10 + (d.toNat - '0'.toNat)

/-- The value of a run of decimal digits. -/
def decimalValue (digits : List Char) : Nat := digits.foldl decimalStep 0

/-- The sign `strtoumax` reads: a leading `-` or `+`, and the text after it. -/
def splitSign : List Char → Bool × List Char
  | '-' :: body => (true, body)
  | '+' :: body => (false, body)
  | body => (false, body)

/-- What `strtoumax` returns for a sign and a run of decimal digits: `UINTMAX_MAX` when the
value does not fit in 64 bits, and otherwise the value, negated modulo `2 ^ 64` after a minus
sign. -/
def strtoumax (negative : Bool) (digits : List Char) : Nat :=
  if 2 ^ 64 - 1 < decimalValue digits then 2 ^ 64 - 1
  else if negative then (2 ^ 64 - decimalValue digits) % 2 ^ 64
  else decimalValue digits

/-- `sscanf(line, "pcm%u: ", &devunit)`, as FreeBSD's `vfscanf` reads `%u`: after the literal
`pcm`, skip white space, then read at most 512 characters of an optional sign and decimal
digits, at least one digit, convert them with `strtoumax` and store the result in the `unsigned
int`. `none` when the call returns less than one conversion; the `: ` after `%u` counts for
nothing. -/
def scanPcmUnit : List Char → Option Nat
  | 'p' :: 'c' :: 'm' :: rest =>
    let signed := splitSign ((rest.dropWhile isSpace).take 512)
    let digits := signed.2.takeWhile Char.isDigit
    if digits = [] then none else some (strtoumax signed.1 digits % 2 ^ 32)
  | _ => none

/-- `snprintf(devname, sizeof(devname), "/dev/dsp%u", devunit)`: the node of a unit, cut to the
characters that fit with the NUL. -/
def dspDevname (devunit : Nat) : List Char :=
  ("/dev/dsp".toList ++ Nat.toDigits 10 devunit).take (ossDevnodeSize - 1)

/-- The digit of a number below ten is a decimal digit that reads back as the number. -/
theorem digitChar_decimal {d : Nat} (small : d < 10) :
    (Nat.digitChar d).isDigit ∧ (Nat.digitChar d).toNat - '0'.toNat = d := by
  interval_cases d <;> decide

/-- Printing a number in decimal, with enough fuel, puts its digits in front of those already
printed: a nonempty run of decimal digits whose value is the number. -/
theorem toDigitsCore_decimal :
    ∀ (fuel n : Nat) (printed : List Char), n < fuel →
      ∃ digits, Nat.toDigitsCore 10 fuel n printed = digits ++ printed ∧ digits ≠ [] ∧
        (∀ c ∈ digits, c.isDigit) ∧ decimalValue digits = n
  | 0, _, _, enough => absurd enough (Nat.not_lt_zero _)
  | fuel + 1, n, printed, enough => by
    have last := digitChar_decimal (Nat.mod_lt n (by decide : 10 > 0))
    by_cases leading : n / 10 = 0
    · refine ⟨[Nat.digitChar (n % 10)], by simp [Nat.toDigitsCore, leading], by simp,
        by simpa using last.1, ?_⟩
      simp only [decimalValue, List.foldl_cons, List.foldl_nil, decimalStep, last.2]
      omega
    · obtain ⟨digits, printedAs, nonempty, allDigits, value⟩ :=
        toDigitsCore_decimal fuel (n / 10) (Nat.digitChar (n % 10) :: printed) (by omega)
      refine ⟨digits ++ [Nat.digitChar (n % 10)], ?_, by simp, ?_, ?_⟩
      · simp [Nat.toDigitsCore, leading, printedAs]
      · simpa [or_imp, forall_and] using ⟨allDigits, last.1⟩
      · simp only [decimalValue, List.foldl_append, List.foldl_cons, List.foldl_nil, decimalStep]
        rw [← decimalValue, value, last.2, Nat.div_add_mod']

/-- The decimal digits of a number: a nonempty run of digits that reads back as the number. -/
theorem toDigits_decimal (n : Nat) :
    Nat.toDigits 10 n ≠ [] ∧ (∀ c ∈ Nat.toDigits 10 n, c.isDigit) ∧
      decimalValue (Nat.toDigits 10 n) = n := by
  obtain ⟨digits, printed, nonempty, allDigits, value⟩ := toDigitsCore_decimal (n + 1) n [] n.lt_succ_self
  rw [List.append_nil] at printed
  rw [Nat.toDigits, printed]
  exact ⟨nonempty, allDigits, value⟩

/-- A number below `10 ^ e` has at most `e` decimal digits. -/
theorem toDigits_length_le {n e : Nat} (small : n < 10 ^ e) (positive : 0 < e) :
    (Nat.toDigits 10 n).length ≤ e :=
  Nat.toDigitsCore_length 10 (by decide) (n + 1) n e small positive

/-- A decimal digit is no white space. -/
theorem isSpace_of_isDigit {d : Char} (digit : d.isDigit) : isSpace d = false := by
  simp only [isSpace, Bool.or_eq_false_iff, beq_eq_false_iff_ne, ne_eq]
  refine ⟨⟨⟨⟨⟨?_, ?_⟩, ?_⟩, ?_⟩, ?_⟩, ?_⟩ <;> rintro rfl <;> exact absurd digit (by decide)

/-- A text that starts with a digit has no sign. -/
theorem splitSign_of_isDigit {d : Char} (digit : d.isDigit) (body : List Char) :
    splitSign (d :: body) = (false, d :: body) := by
  have notMinus : d ≠ '-' := by rintro rfl; exact absurd digit (by decide)
  have notPlus : d ≠ '+' := by rintro rfl; exact absurd digit (by decide)
  simp [splitSign, notMinus, notPlus]

/-- `sscanf` reads a run of at most 512 digits after `pcm`, ended by a character that is not a
digit, as `strtoumax` does, modulo `2 ^ 32`. -/
theorem scanPcmUnit_digits {digits : List Char} (nonempty : digits ≠ [])
    (allDigits : ∀ c ∈ digits, c.isDigit) (short : digits.length ≤ 512) {stop : Char}
    (notDigit : stop.isDigit = false) (rest : List Char) :
    scanPcmUnit ('p' :: 'c' :: 'm' :: (digits ++ stop :: rest)) =
      some (strtoumax false digits % 2 ^ 32) := by
  obtain ⟨first, others, rfl⟩ := List.exists_cons_of_ne_nil nonempty
  have firstDigit := allDigits first (List.mem_cons_self _ _)
  have field : ((first :: others ++ stop :: rest).dropWhile isSpace).take 512 =
      first :: others ++ (stop :: rest).take (512 - (first :: others).length) := by
    rw [List.cons_append, List.dropWhile_cons_of_neg (by simp [isSpace_of_isDigit firstDigit]),
      ← List.cons_append, List.take_append_eq_append_take, List.take_of_length_le short]
  have stopped :
      ((stop :: rest).take (512 - (first :: others).length)).takeWhile Char.isDigit = [] := by
    cases 512 - (first :: others).length <;> simp [notDigit]
  generalize (stop :: rest).take (512 - (first :: others).length) = kept at field stopped
  simp only [scanPcmUnit]
  rw [field, List.cons_append, splitSign_of_isDigit firstDigit, ← List.cons_append]
  dsimp only
  rw [List.takeWhile_append_of_pos allDigits, stopped, List.append_nil, if_neg nonempty]

/-- The digits of a number that fits in 64 bits read back as the number. -/
theorem strtoumax_toDigits {n : Nat} (small : n < 2 ^ 64) :
    strtoumax false (Nat.toDigits 10 n) = n := by
  rw [strtoumax, (toDigits_decimal n).2.2, if_neg (by omega)]
  rfl

/-- A unit below `2 ^ 32` is printed whole: `/dev/dsp` and at most ten digits. -/
theorem dspDevname_eq {devunit : Nat} (small : devunit < 2 ^ 32) :
    dspDevname devunit = "/dev/dsp".toList ++ Nat.toDigits 10 devunit ∧
      (dspDevname devunit).length ≤ 18 := by
  have digits := toDigits_length_le (lt_of_lt_of_le small (by decide : 2 ^ 32 ≤ 10 ^ 10))
    (by decide)
  have whole : dspDevname devunit = "/dev/dsp".toList ++ Nat.toDigits 10 devunit :=
    List.take_of_length_le (by simp [ossDevnodeSize]; omega)
  rw [whole]
  exact ⟨rfl, by simp; omega⟩

/-! ### A line -/

/-- What the loop reads off a line that is not a section header: the device node, the
description between `<` and `>`, the directions between `(` and `)`, and whether the unit is the
preferred one. -/
structure SndstatDevice where
  devname : List Char
  desc : List Char
  playrec : List Char
  preferred : Bool
  deriving DecidableEq, Repr

/-- The device node a line names and whether it is the preferred unit, in the mode of the section
it stands in. In the kernel's section it is the unit `sscanf` reads after `pcm`, preferred when it
is `hw.snd.default_unit` as an `unsigned int`; the test `snprintf(...) < 1` is left out, since the
call prints at least `/dev/dsp` and a digit. In the userspace section it is `/dev/` and the name
before the `:`, unless the name leaves no room for them in the node (`continue`). -/
def sndstatDevname (userspaceMatching : Bool) (prefunit : Int) (line name : List Char) :
    Option (List Char × Bool) :=
  if !userspaceMatching then
    (scanPcmUnit line).map fun devunit => (dspDevname devunit, devunit = unsignedOf prefunit)
  else if ossDevnodeSize - "/dev/".length ≤ name.length then none
  else some ("/dev/".toList ++ name, false)

/-- The body of the loop up to the direction test, on the C string of a line that is not a
section header: cut it at `:`, read the node, then cut at `<`, `>`, `(` and `)`; `none` where the
loop `continue`s. The tests `matchptr >= line + linecap` are left out: the buffer of `getline`
holds the line and its NUL, so a pointer one past a delimiter of the C string never reaches its
end. -/
def sndstatDevice (userspaceMatching : Bool) (prefunit : Int) (line : List Char) :
    Option SndstatDevice :=
  (strchr ':' line).bind fun (name, afterName) =>
  (sndstatDevname userspaceMatching prefunit line name).bind fun (devname, preferred) =>
  (strchr '<' afterName).bind fun (_, afterOpen) =>
  (strchr '>' afterOpen).bind fun (desc, afterDesc) =>
  (strchr '(' afterDesc).bind fun (_, afterParen) =>
  (strchr ')' afterParen).map fun (playrec, _) => ⟨devname, desc, playrec, preferred⟩

/-! ### The format of a line -/

/-- A line cut at its five delimiters: the name before `:`, the text up to `<`, the description
up to `>`, the text up to `(`, the directions up to `)`, and the rest of the line. -/
structure SndstatFields where
  name : List Char
  beforeDesc : List Char
  desc : List Char
  beforePlayrec : List Char
  playrec : List Char
  rest : List Char
  deriving DecidableEq, Repr

/-- The line the pieces make. -/
def SndstatFields.text (fields : SndstatFields) : List Char :=
  fields.name ++ ':' :: fields.beforeDesc ++ '<' :: fields.desc ++ '>' ::
    fields.beforePlayrec ++ '(' :: fields.playrec ++ ')' :: fields.rest

/-- Each piece is free of the delimiter that ends it. -/
def SndstatFields.Delimited (fields : SndstatFields) : Prop :=
  ':' ∉ fields.name ∧ '<' ∉ fields.beforeDesc ∧ '>' ∉ fields.desc ∧
    '(' ∉ fields.beforePlayrec ∧ ')' ∉ fields.playrec

instance : DecidablePred SndstatFields.Delimited := fun fields =>
  inferInstanceAs (Decidable (':' ∉ fields.name ∧ '<' ∉ fields.beforeDesc ∧ '>' ∉ fields.desc ∧
    '(' ∉ fields.beforePlayrec ∧ ')' ∉ fields.playrec))

/-- The lines the loop reads a device off are exactly those cut by `:`, `<`, `>`, `(` and `)`,
in this order, with each piece free of the delimiter that ends it and a name that gives a device
node in the line's section; the description and the directions are read back as the pieces
between `<` and `>` and between `(` and `)`. -/
theorem sndstatDevice_eq_some_iff (userspaceMatching : Bool) (prefunit : Int)
    (line : List Char) (device : SndstatDevice) :
    sndstatDevice userspaceMatching prefunit line = some device ↔
      ∃ fields : SndstatFields, fields.Delimited ∧ line = fields.text ∧
        sndstatDevname userspaceMatching prefunit line fields.name =
          some (device.devname, device.preferred) ∧
        device.desc = fields.desc ∧ device.playrec = fields.playrec := by
  obtain ⟨devname, desc, playrec, preferred⟩ := device
  simp only [sndstatDevice, Option.bind_eq_some, Option.map_eq_some', Prod.exists,
    strchr_eq_some_iff, SndstatFields.Delimited, SndstatFields.text, SndstatDevice.mk.injEq]
  constructor
  · rintro ⟨name, afterName, ⟨rfl, noColon⟩, devname', preferred', named, _, afterOpen,
      ⟨rfl, noOpen⟩, desc', afterDesc, ⟨rfl, noClose⟩, _, afterParen, ⟨rfl, noParen⟩,
      playrec', rest, ⟨rfl, noEnd⟩, rfl, rfl, rfl, rfl⟩
    exact ⟨⟨name, _, desc', _, playrec', rest⟩, ⟨noColon, noOpen, noClose, noParen, noEnd⟩,
      by simp, named, rfl, rfl⟩
  · rintro ⟨⟨name, beforeDesc, desc', beforePlayrec, playrec', rest⟩,
      ⟨noColon, noOpen, noClose, noParen, noEnd⟩, rfl, named, rfl, rfl⟩
    exact ⟨name, _, ⟨by simp, noColon⟩, _, _, named, beforeDesc, _, ⟨rfl, noOpen⟩, desc, _,
      ⟨rfl, noClose⟩, beforePlayrec, _, ⟨rfl, noParen⟩, playrec, rest, ⟨rfl, noEnd⟩, rfl, rfl, rfl,
      rfl⟩

example : sndstatDevice false 0 "pcm0: <Realtek ALC892 (Rear Analog)> (play/rec) default".toList =
    some ⟨"/dev/dsp0".toList, "Realtek ALC892 (Rear Analog)".toList, "play/rec".toList, true⟩ := by
  decide

/-- A kernel line `pcm<unit>:` whose pieces are delimited reads back as the node of the unit
modulo `2 ^ 32`, for every unit that `strtoumax` reads without saturating, with the
description and the directions it was written with; it is preferred when that unit is
`hw.snd.default_unit` as an `unsigned int`. -/
theorem sndstatDevice_pcm (prefunit : Int) {unit : Nat} (small : unit < 2 ^ 64)
    (fields : SndstatFields) (named : fields.name = "pcm".toList ++ Nat.toDigits 10 unit)
    (delimited : fields.Delimited) :
    sndstatDevice false prefunit fields.text =
      some ⟨"/dev/dsp".toList ++ Nat.toDigits 10 (unit % 2 ^ 32), fields.desc, fields.playrec,
        unit % 2 ^ 32 = unsignedOf prefunit⟩ := by
  obtain ⟨nonempty, allDigits, -⟩ := toDigits_decimal unit
  have short := toDigits_length_le (lt_of_lt_of_le small (by decide : 2 ^ 64 ≤ 10 ^ 20))
    (by decide)
  have scanned : scanPcmUnit fields.text = some (unit % 2 ^ 32) := by
    have pcm : "pcm".toList = ['p', 'c', 'm'] := rfl
    rw [SndstatFields.text, named, pcm]
    simp only [List.cons_append, List.nil_append, List.append_assoc]
    rw [scanPcmUnit_digits nonempty allDigits (by omega) (by decide : ':'.isDigit = false),
      strtoumax_toDigits small]
  rw [sndstatDevice_eq_some_iff]
  refine ⟨fields, delimited, rfl, ?_, rfl, rfl⟩
  simp only [sndstatDevname, Bool.not_false, if_true, scanned, Option.map_some',
    (dspDevname_eq (Nat.mod_lt unit (by decide))).1]

/-- The line of unit `2 ^ 32 + 1` reads as `/dev/dsp1`, the preferred unit when
`hw.snd.default_unit` is `1`. -/
theorem sndstatDevice_pcm_wraps :
    let fields : SndstatFields :=
      ⟨"pcm4294967297".toList, " ".toList, "USB Audio".toList, " ".toList, "rec".toList, []⟩
    4294967297 < 2 ^ 64 ∧ fields.name = "pcm".toList ++ Nat.toDigits 10 4294967297 ∧
      fields.Delimited ∧
      sndstatDevice false 1 fields.text =
        some ⟨"/dev/dsp".toList ++ Nat.toDigits 10 (4294967297 % 2 ^ 32), fields.desc,
          fields.playrec, 4294967297 % 2 ^ 32 = unsignedOf 1⟩ :=
  ⟨by decide, by decide, by decide, sndstatDevice_pcm 1 (by decide) _ (by decide) (by decide)⟩

end Cubeb.Oss
