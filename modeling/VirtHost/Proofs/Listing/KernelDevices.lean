import VirtHost.Listing.Host
import VirtHost.Proofs.Listing.VirtualFunction
import VirtHost.Proofs.Text.Lines

/-! # Blocks of devices

A listing of PCI devices has a block for each device: a line that begins with the address, and indented
lines, one of which may name the driver of the device.

* `AddressForm.chars`: an address in the short or in the long form; `long_ne_short`.
* `DeviceBlock`: a block; `DeviceBlock.lines`: how it is printed.
* `kernelDevices_of_lined`: what is read from a listing is the address and the driver of each block.
-/

namespace VirtHost.Listing
open Text
set_option autoImplicit false

variable {line s t : List Char} {ls read : List (List Char)} {driver : Option String} {text : String}

/-! ## Forms of an address -/

/-- The forms in which the addresses of a listing are written. -/
inductive AddressForm
  | short
  | long

/-- An address in a form. -/
def AddressForm.chars : AddressForm → Pci.Address → List Char
  | short => Pci.Address.shortChars
  | long => Pci.Address.chars

theorem AddressForm.isWord (form : AddressForm) (a : Pci.Address) : IsWord (form.chars a) := by
  cases form with
  | short => exact a.written_shortChars.isWord
  | long => exact a.written_chars.isWord

/-- The long form has one colon more. -/
theorem long_ne_short (a b : Pci.Address) : a.chars ≠ b.shortChars := by
  have hcolon (width n : Nat) : (hexadecimal width n).count ':' = 0 :=
    List.count_eq_zero.2 (notMem_of_isHexDigit isHexDigit_of_mem_hexadecimal (by decide))
  intro h
  have hcount := congrArg (List.count ':') h
  simp [Pci.Address.chars, Pci.Address.shortChars, hcolon] at hcount

theorem shortChars_eq_iff {a b : Pci.Address} (hdomain : a.domain = b.domain) :
    a.shortChars = b.shortChars ↔ a = b := by
  constructor
  · intro h
    have ha := a.written_shortChars
    rw [h] at ha
    have heq := ha.unique b.written_shortChars
    cases a
    cases b
    simp_all
  · rintro rfl
    rfl

/-! ## Lines -/

/-- A line that does not head a block. An empty line counts as one. -/
def IsIndented (line : List Char) : Prop :=
  ∀ c ∈ line.head?, isBlank c = true

theorem isIndented_iff : IsIndented line ↔ (line.head?.map isBlank).getD true = true := by
  cases line <;> simp [IsIndented]

instance : DecidablePred IsIndented := fun _ =>
  decidable_of_iff' _ isIndented_iff

/-- A line that names a driver: the label and the driver, with gaps around the driver. -/
def NamesDriver (driver : String) (line : List Char) : Prop :=
  trim driver.toList = driver.toList ∧ ∃ indent gap behind, IsGap indent ∧ IsGap gap ∧ IsGap behind ∧
    line = indent ++ (driverLabel ++ (gap ++ (driver.toList ++ behind)))

/-- A line that does not begin with the label, whatever its indentation. -/
def LacksDriver (line : List Char) : Prop :=
  ¬ driverLabel <+: trim line

instance : DecidablePred LacksDriver := fun line =>
  inferInstanceAs (Decidable (¬ driverLabel <+: trim line))

theorem trim_driverLabel (t : List Char) : trim (driverLabel ++ t) = driverLabel ++ trimEnd t := by
  have hstart : trimStart driverLabel = driverLabel := by decide +kernel
  have hend : trimEnd driverLabel = driverLabel := by decide +kernel
  rw [trim, trimStart_append hstart (by decide), trimEnd_append hend]

theorem driverOfLine?_of_names {d : String} (h : NamesDriver d line) : driverOfLine? line = some d := by
  obtain ⟨hd, indent, gap, behind, hindent, hgap, hbehind, rfl⟩ := h
  have htrim : trim (trimEnd (gap ++ (d.toList ++ behind))) = d.toList := by
    rw [trim_trimEnd, trim_blanks_append fun c hc => (hgap c hc).1,
      trim_append_blanks fun c hc => (hbehind c hc).1, hd]
  rw [driverOfLine?, trim_blanks_append fun c hc => (hindent c hc).1, trim_driverLabel, dropHead?_append]
  simp [htrim]

theorem driverOfLine?_of_lacks (h : LacksDriver line) : driverOfLine? line = none := by
  rw [driverOfLine?, Option.map_eq_none_iff, Option.eq_none_iff_forall_ne_some]
  intro rest hrest
  rw [dropHead?_eq_some_iff] at hrest
  exact h (hrest ▸ List.prefix_append _ _)

/-! ## Carriage returns -/

theorem isIndented_dropReturn : IsIndented (dropReturn line) ↔ IsIndented line := by
  by_cases hlast : line.getLast? = some '\r'
  · obtain ⟨s, rfl⟩ := List.getLast?_eq_some_iff.1 hlast
    have hreturn : isBlank '\r' = true := by decide
    have hdrop : dropReturn (s ++ ['\r']) = s := by simp [dropReturn]
    rw [hdrop]
    cases s <;> simp [IsIndented, hreturn]
  · simp [dropReturn, hlast]

theorem isIndented_of_read (h : IsReadOf line s) : IsIndented s ↔ IsIndented line := by
  rcases h with rfl | rfl
  · rfl
  · exact isIndented_dropReturn

theorem words_of_read (h : IsReadOf line s) : words s = words line := by
  rcases h with rfl | rfl
  · rfl
  · exact words_dropReturn line

theorem driverOfLine?_of_read (h : IsReadOf line s) : driverOfLine? s = driverOfLine? line := by
  rcases h with rfl | rfl
  · rfl
  · rw [driverOfLine?, trim_dropReturn, driverOfLine?]

/-! ## Blocks -/

theorem driverOfBlock_of_indented (h : IsIndented line) :
    driverOfBlock driver (line :: ls) = driverOfBlock ((driverOfLine? line).or driver) ls := by
  rw [driverOfBlock, if_pos (isIndented_iff.1 h)]

theorem driverOfBlock_of_not_indented (h : ¬ IsIndented line) :
    driverOfBlock driver (line :: ls) = driver := by
  rw [driverOfBlock, if_neg fun hhead => h (isIndented_iff.2 hhead)]

theorem deviceOfLine?_of_indented (h : IsIndented line) : deviceOfLine? line ls = none := by
  rw [deviceOfLine?, if_pos (isIndented_iff.1 h)]

theorem deviceOfLine?_of_not_indented (h : ¬ IsIndented line) : deviceOfLine? line ls =
    (words line).head?.map fun address => ⟨String.ofList address, driverOfBlock none ls⟩ := by
  rw [deviceOfLine?, if_neg fun hhead => h (isIndented_iff.2 hhead)]

/-- A driver is read from lines as they are read. -/
theorem driverOfBlock_of_read (h : List.Forall₂ IsReadOf ls read) :
    driverOfBlock driver read = driverOfBlock driver ls := by
  induction h generalizing driver with
  | nil => rfl
  | @cons l r ls read hr _ ih =>
    by_cases hindent : IsIndented l
    · rw [driverOfBlock_of_indented hindent, driverOfBlock_of_indented ((isIndented_of_read hr).2 hindent),
        driverOfLine?_of_read hr, ih]
    · rw [driverOfBlock_of_not_indented hindent,
        driverOfBlock_of_not_indented fun h => hindent ((isIndented_of_read hr).1 h)]

theorem devicesFrom_of_read (h : List.Forall₂ IsReadOf ls read) : devicesFrom read = devicesFrom ls := by
  induction h with
  | nil => rfl
  | @cons l r ls read hr hread ih =>
    have hdevice : deviceOfLine? r read = deviceOfLine? l ls := by
      by_cases hindent : IsIndented l
      · rw [deviceOfLine?_of_indented hindent, deviceOfLine?_of_indented ((isIndented_of_read hr).2 hindent)]
      · rw [deviceOfLine?_of_not_indented hindent,
          deviceOfLine?_of_not_indented fun h => hindent ((isIndented_of_read hr).1 h), words_of_read hr,
          driverOfBlock_of_read hread]
    rw [devicesFrom, devicesFrom, hdevice, ih]

theorem driverOfBlock_concat_nil : driverOfBlock driver (ls ++ [[]]) = driverOfBlock driver ls := by
  induction ls generalizing driver with
  | nil => rfl
  | cons l ls ih =>
    rw [List.cons_append, driverOfBlock, driverOfBlock, ih]

theorem devicesFrom_concat_nil : devicesFrom (ls ++ [[]]) = devicesFrom ls := by
  induction ls with
  | nil => rfl
  | cons l ls ih =>
    rw [List.cons_append, devicesFrom, devicesFrom, deviceOfLine?, deviceOfLine?, driverOfBlock_concat_nil, ih]

theorem kernelDevices_eq_devicesFrom (h : Lined ls text) : kernelDevices text = devicesFrom ls := by
  obtain ⟨read, hread, hlines⟩ := h.exists_read
  rw [kernelDevices, ← devicesFrom_of_read hread]
  rcases hlines with rfl | rfl
  · rfl
  · exact devicesFrom_concat_nil.symm

/-- A device in a listing: its address, what stands behind it, and the indented lines, of which at most one
names the driver. -/
structure DeviceBlock where
  address : Pci.Address
  description : List Char
  driver : Option String
  body : List (List Char)
  isIndented_description : IsIndented description
  isIndented_body : ∀ line ∈ body, IsIndented line
  among : Among NamesDriver LacksDriver driver.toList body

namespace DeviceBlock

/-- The lines of a block with its address in some form. -/
def lines (form : AddressForm) (b : DeviceBlock) : List (List Char) :=
  (form.chars b.address ++ b.description) :: b.body

/-- What is read of a block. -/
def shown (form : AddressForm) (b : DeviceBlock) : KernelDevice :=
  ⟨String.ofList (form.chars b.address), b.driver⟩

variable {b : DeviceBlock} {form : AddressForm}

theorem words_head : (words (form.chars b.address ++ b.description)).head? = some (form.chars b.address) := by
  have hword := form.isWord b.address
  cases hdescription : b.description with
  | nil => rw [List.append_nil, words_of_isWord hword, List.head?_cons]
  | cons c rest =>
    have hc : isBlank c = true := b.isIndented_description c (by rw [hdescription]; rfl)
    rw [words_append_blank hc, words_of_isWord hword]
    rfl

theorem not_isIndented_head : ¬ IsIndented (form.chars b.address ++ b.description) := by
  have hword := form.isWord b.address
  obtain ⟨c, rest, hchars⟩ := List.exists_cons_of_ne_nil hword.1
  intro h
  have hc := hword.2 c (by rw [hchars]; exact List.mem_cons_self)
  rw [h c (by rw [hchars]; rfl)] at hc
  cases hc

end DeviceBlock

theorem driverOfBlock_append {body : List (List Char)} (h : ∀ line ∈ body, IsIndented line) :
    driverOfBlock driver (body ++ ls) =
      driverOfBlock ((body.filterMap driverOfLine?).getLast?.or driver) ls := by
  induction body generalizing driver with
  | nil => rfl
  | cons line body ih =>
    obtain ⟨hline, hbody⟩ := List.forall_mem_cons.1 h
    rw [List.cons_append, driverOfBlock_of_indented hline, ih hbody]
    cases hdriver : driverOfLine? line with
    | none => rw [List.filterMap_cons_none hdriver, Option.none_or]
    | some d =>
      rw [List.filterMap_cons_some hdriver, List.getLast?_cons]
      cases (body.filterMap driverOfLine?).getLast? <;> rfl

theorem devicesFrom_append {body : List (List Char)} (h : ∀ line ∈ body, IsIndented line) :
    devicesFrom (body ++ ls) = devicesFrom ls := by
  induction body with
  | nil => rfl
  | cons line body ih =>
    obtain ⟨hline, hbody⟩ := List.forall_mem_cons.1 h
    rw [List.cons_append, devicesFrom, deviceOfLine?_of_indented hline, ih hbody]
    rfl

theorem DeviceBlock.driverOfBlock_body (b : DeviceBlock) (hls : ∀ line ∈ ls.head?, ¬ IsIndented line) :
    driverOfBlock none (b.body ++ ls) = b.driver := by
  have hnamed : b.body.filterMap driverOfLine? = b.driver.toList := by
    have := b.among.filterMap (g := id) (fun d _ line h => driverOfLine?_of_names h)
      fun line h => driverOfLine?_of_lacks h
    rwa [List.map_id] at this
  have hend (d : Option String) : driverOfBlock d ls = d := by
    cases ls with
    | nil => rfl
    | cons line ls => exact driverOfBlock_of_not_indented (hls line rfl)
  rw [driverOfBlock_append b.isIndented_body, hnamed, hend]
  cases b.driver <;> rfl

/-- What is read from a listing is the address and the driver of each block. -/
theorem kernelDevices_of_lined {form : AddressForm} {blocks : List DeviceBlock}
    (h : Lined (blocks.flatMap (DeviceBlock.lines form)) text) :
    kernelDevices text = blocks.map (DeviceBlock.shown form) := by
  rw [kernelDevices_eq_devicesFrom h]
  clear h
  induction blocks with
  | nil => rfl
  | cons b blocks ih =>
    have hnext : ∀ line ∈ (blocks.flatMap (DeviceBlock.lines form)).head?, ¬ IsIndented line := by
      cases blocks with
      | nil => simp
      | cons b' blocks =>
        intro line hline
        obtain rfl : form.chars b'.address ++ b'.description = line := by
          simpa [DeviceBlock.lines] using hline
        exact b'.not_isIndented_head
    rw [List.flatMap_cons, DeviceBlock.lines, List.cons_append, devicesFrom,
      deviceOfLine?_of_not_indented b.not_isIndented_head, b.words_head, b.driverOfBlock_body hnext,
      devicesFrom_append b.isIndented_body, ih]
    rfl

end VirtHost.Listing
