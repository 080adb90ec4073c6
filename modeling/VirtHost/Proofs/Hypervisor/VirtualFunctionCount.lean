import VirtHost.Proofs.Hypervisor.VirtualFunctionWrites
import VirtHost.Proofs.Listing.VirtualFunction

/-! # The number of virtual functions

* `Protocol`: which numbers are written on any host.
* `Sysfs`: a host whose kernel accepts, refuses or defers the numbers that are written.
* `setCount_protocol`: every call follows the protocol, and what comes of it on such a host.
-/

namespace VirtHost.Hypervisor
open Host (Succeeded)
open Text (decimal)
set_option autoImplicit false

/-! ## The numbers that are written -/

/-- The command and the reply of an exchange that writes a number. -/
def written? : Exchange → Option (String × Except Error Host.Completion)
  | ⟨.execute command _, reply⟩ =>
    if Text.startsWith command "echo " then some (command, reply) else none
  | _ => none

/-- The commands that write numbers in some exchanges, and the replies to them. -/
def writesOf (t : List Exchange) : List (String × Except Error Host.Completion) :=
  t.filterMap written?

/-- Which numbers are written to set the number of virtual functions of a device. -/
structure Protocol (f : PhysicalFunction) (count : Nat) (t : List Exchange) : Prop where
  numbers : (writesOf t).map Prod.fst <+:
    [count, 0, count].map fun number =>
      "echo " ++ decimal number ++ " > " ++ f.directory ++ "/sriov_numvfs"
  /-- Nothing is written only if the interface is not found. -/
  found : writesOf t = [] ↔
    ∃ name reply, f = .interface name ∧ t = [lookedFor name reply] ∧ ¬ Succeeded reply
  /-- The device is set to no virtual functions exactly if it was busy. -/
  reset : 1 < (writesOf t).length ↔ ∃ write, (writesOf t).head? = some write ∧ Busy write.2
  /-- No other number is written after one that was not accepted. -/
  accepted : ∀ k write, 0 < k → k + 1 < (writesOf t).length → (writesOf t)[k]? = some write →
    Succeeded write.2

section
variable {h : Hypervisor} {f : PhysicalFunction} {count : Nat} {check : Bool} {t : List Exchange}
  {r : Except Error Unit}

@[simp] theorem writesOf_nil : writesOf [] = [] := rfl

@[simp] theorem writesOf_append (t u : List Exchange) :
    writesOf (t ++ u) = writesOf t ++ writesOf u :=
  List.filterMap_append

theorem startsWith_number (directory : String) (number : Nat) :
    Text.startsWith ("echo " ++ decimal number ++ " > " ++ directory ++ "/sriov_numvfs")
      "echo " = true := by
  rw [String.append_assoc, String.append_assoc, String.append_assoc,
    Text.startsWith_append (by decide +kernel)]
  decide +kernel

theorem startsWith_listVirtualFunctions (directory : String) :
    Text.startsWith (Command.listVirtualFunctions directory) "echo " = false := by
  unfold Command.listVirtualFunctions
  rw [String.append_assoc, Text.startsWith_append (by decide +kernel)]
  decide +kernel

theorem startsWith_listInterface (name : String) :
    Text.startsWith (Command.listInterface name) "echo " = false := by
  unfold Command.listInterface
  rw [Text.startsWith_append (by decide +kernel)]
  decide +kernel

@[simp] theorem writesOf_wrote (directory : String) (options : Host.Options) (number : Nat)
    (reply : Except Error Host.Completion) (t : List Exchange) :
    writesOf (wrote directory options number reply :: t) =
      ("echo " ++ decimal number ++ " > " ++ directory ++ "/sriov_numvfs", reply) :: writesOf t := by
  simp [writesOf, written?, wrote, Exchange.ran, startsWith_number]

@[simp] theorem writesOf_listed (directory : String) (reply : Except Error Host.Completion) :
    writesOf [listed directory reply] = [] := by
  simp [writesOf, written?, listed, Exchange.ran, startsWith_listVirtualFunctions]

@[simp] theorem writesOf_lookedFor (name : String) (reply : Except Error Host.Completion) :
    writesOf [lookedFor name reply] = [] := by
  simp [writesOf, written?, lookedFor, Exchange.ran, startsWith_listInterface]

/-- The numbers that are written follow the protocol, whatever else is done. -/
theorem Writing.protocol {v : List Exchange} (hw : Writing h f.directory count v r)
    (ht : writesOf t = writesOf v) : Protocol f count t := by
  have hfound (hne : writesOf t ≠ []) : writesOf t = [] ↔
      ∃ name reply, f = .interface name ∧ t = [lookedFor name reply] ∧ ¬ Succeeded reply := by
    refine ⟨fun h => absurd h hne, ?_⟩
    rintro ⟨name, reply, -, rfl, -⟩
    exact writesOf_lookedFor name reply
  cases hw with
  | @once first _ hfirst _ =>
    simp only [writesOf_wrote, writesOf_nil] at ht
    refine ⟨by simp [ht], hfound (by simp [ht]), by simp [ht, hfirst], ?_⟩
    intro k write hk hlt
    simp [ht] at hlt
  | @reset first second _ hfirst _ =>
    simp only [writesOf_wrote, writesOf_nil] at ht
    refine ⟨by simp [ht], hfound (by simp [ht]), by simp [ht, hfirst], ?_⟩
    intro k write hk hlt
    simp [ht] at hlt
    omega
  | @again first second third _ hfirst hsecond _ =>
    simp only [writesOf_wrote, writesOf_nil] at ht
    refine ⟨by simp [ht], hfound (by simp [ht]), by simp [ht, hfirst], ?_⟩
    intro k write hk hlt hwrite
    obtain rfl : k = 1 := by
      simp [ht] at hlt
      omega
    obtain rfl : _ = write := by simpa [ht] using hwrite
    exact hsecond

theorem Found.writesOf_eq (hf : Found f t) : writesOf t = [] := by
  cases hf with
  | interface _ => exact writesOf_lookedFor _ _
  | address => rfl

/-- On every host the numbers that are written follow the protocol. -/
theorem protocol_of_runs (hrun : (f.setCount h count check).Runs t r) : Protocol f count t := by
  rcases runs_setCount hrun with ⟨name, reply, e, rfl, rfl, hreply, rfl⟩ | ⟨u, v, rfl, hu, hv⟩
  · have hwrites := writesOf_lookedFor name reply
    refine ⟨by simp [hwrites], ?_, by simp [hwrites], by simp [hwrites]⟩
    exact ⟨fun _ => ⟨name, reply, rfl, rfl, hreply⟩, fun _ => hwrites⟩
  · rcases runs_setCountIn hv with ⟨hw, -⟩ | ⟨w, reply, rfl, hw, -⟩
    · exact hw.protocol (by simp [hu.writesOf_eq])
    · exact hw.protocol (by simp [hu.writesOf_eq])

end

/-! ## On a kernel -/

/-- The answer of a kernel to a number that is written for a device with `total` virtual functions of
which `current` exist, and how many exist then. -/
inductive Ruled (total current number : Nat) : Except Error Host.Completion → Nat → Prop
  | refused {c : Host.Completion} (hnumber : total < number) (hcode : c.code = 1)
      (hother : Text.includes c.stderr deviceBusy = false) : Ruled total current number (.ok c) current
  | busy {c : Host.Completion} (hnumber : number ≤ total) (hpos : 0 < number) (hcurrent : 0 < current)
      (hne : number ≠ current) (hcode : c.code = 1)
      (hbusy : Text.includes c.stderr deviceBusy = true) : Ruled total current number (.ok c) current
  | accepted {c : Host.Completion} (hnumber : number ≤ total)
      (hfree : number = 0 ∨ number = current ∨ current = 0) (hcode : c.code = 0) :
      Ruled total current number (.ok c) number

/-- The answer to a listing of `k` virtual functions. -/
inductive Listed : Nat → Except Error Host.Completion → Prop
  | none {c : Host.Completion} (hcode : c.code ≠ 0)
      (hmissing : Text.includes c.stderr noSuchFile = true) : Listed 0 (.ok c)
  | some {k : Nat} {c : Host.Completion} (hcode : c.code = 0)
      (hshows : Listing.Shows (k + 1) c.stdout.toList) : Listed (k + 1) (.ok c)

/-- A host on which a physical function exists and obeys a kernel; `current` says how many virtual
functions it has. -/
structure Sysfs {σ : Type} (host : Host σ) (f : PhysicalFunction) (total : Nat) (current : σ → Nat) :
    Prop where
  found : ∀ s name options, f = .interface name →
    Succeeded (host s (.execute (Command.listInterface name) options)).1 ∧
      current (host s (.execute (Command.listInterface name) options)).2 = current s
  ruled : ∀ s number command options,
    command = "echo " ++ decimal number ++ " > " ++ f.directory ++ "/sriov_numvfs" →
    options.shell = true → Ruled total (current s) number (host s (.execute command options)).1
      (current (host s (.execute command options)).2)
  listed : ∀ s options, options.shell = true →
    Listed (current s) (host s (.execute (Command.listVirtualFunctions f.directory) options)).1 ∧
      current (host s (.execute (Command.listVirtualFunctions f.directory) options)).2 = current s

section
variable {h : Hypervisor} {f : PhysicalFunction} {count total : Nat} {check : Bool}
  {t : List Exchange} {r : Except Error Unit} {σ : Type} {host : Host σ} {current : σ → Nat} {s s' : σ}

theorem Ruled.busy_iff {number now after : Nat} {reply : Except Error Host.Completion}
    (hr : Ruled total now number reply after) :
    Busy reply ↔ number ≤ total ∧ 0 < number ∧ 0 < now ∧ number ≠ now := by
  cases hr with
  | refused hnumber hcode hother =>
    rw [busy_ok, hother]
    exact ⟨fun hbusy => absurd hbusy.2 Bool.false_ne_true, by omega⟩
  | busy hnumber hpos hcurrent hne hcode hbusy =>
    exact ⟨fun _ => ⟨hnumber, hpos, hcurrent, hne⟩, fun _ => busy_ok.2 ⟨hcode, hbusy⟩⟩
  | accepted hnumber hfree hcode =>
    rw [busy_ok, hcode]
    omega

/-- The number is what was written if that was accepted, and what it was before if not. -/
theorem Ruled.accepted_or {number now after : Nat} {reply : Except Error Host.Completion}
    (hr : Ruled total now number reply after) :
    (Succeeded reply ∧ number ≤ total ∧ (number = 0 ∨ number = now ∨ now = 0) ∧ after = number) ∨
      (¬ Succeeded reply ∧ ¬ (number ≤ total ∧ (number = 0 ∨ number = now ∨ now = 0)) ∧
        after = now) := by
  cases hr with
  | refused hnumber hcode hother => exact .inr ⟨by simp [hcode], by omega, rfl⟩
  | busy hnumber hpos hcurrent hne hcode hbusy => exact .inr ⟨by simp [hcode], by omega, rfl⟩
  | accepted hnumber hfree hcode => exact .inl ⟨Host.succeeded_ok.2 hcode, hnumber, hfree, rfl⟩

/-- A number is written as the kernel rules. -/
theorem Sysfs.ruled_of_answers (hk : Sysfs host f total current) {options : Host.Options}
    (hshell : options.shell = true) {number : Nat} {reply : Except Error Host.Completion}
    {rest : List Exchange} (ha : host.Answers s (wrote f.directory options number reply :: rest) s') :
    ∃ m, Ruled total (current s) number reply (current m) ∧ host.Answers m rest s' := by
  obtain ⟨hreply, hrest⟩ := ha
  have hruled := hk.ruled s number _ options rfl hshell
  have hreply : (host s (.execute
      ("echo " ++ decimal number ++ " > " ++ f.directory ++ "/sriov_numvfs") options)).1 = reply := hreply
  rw [hreply] at hruled
  exact ⟨_, hruled, hrest⟩

/-- A number up to the total is set in the end, and a larger one is refused. -/
theorem Writing.settles (hk : Sysfs host f total current) (hw : Writing h f.directory count t r)
    (ha : host.Answers s t s') :
    (count ≤ total → r = .ok () ∧ current s' = count) ∧
      (total < count → (∃ e, r = .error e) ∧ current s' = current s) := by
  cases hw with
  | once hfirst hr =>
    obtain ⟨m, hruled, rfl⟩ := hk.ruled_of_answers rfl ha
    rw [hruled.busy_iff] at hfirst
    rcases hruled.accepted_or with ⟨hok, hle, -, hafter⟩ | ⟨hfailed, hnot, hafter⟩
    · exact ⟨fun _ => ⟨hr.2 hok, hafter⟩, fun hlt => by omega⟩
    · refine ⟨fun hle => by omega, fun _ => ⟨?_, hafter⟩⟩
      cases r with
      | error e => exact ⟨e, rfl⟩
      | ok x => exact absurd (hr.1 rfl) hfailed
  | reset hfirst hsecond =>
    obtain ⟨m, hruled, ha⟩ := hk.ruled_of_answers rfl ha
    obtain ⟨m', hruled', rfl⟩ := hk.ruled_of_answers rfl ha
    rcases hruled'.accepted_or with ⟨hok, -⟩ | ⟨-, hnot, -⟩
    · exact absurd hok hsecond
    · omega
  | again hfirst hsecond hr =>
    obtain ⟨m, hruled, ha⟩ := hk.ruled_of_answers rfl ha
    obtain ⟨m', hruled', ha⟩ := hk.ruled_of_answers rfl ha
    obtain ⟨m'', hruled'', rfl⟩ := hk.ruled_of_answers rfl ha
    obtain ⟨hle, -⟩ := hruled.busy_iff.1 hfirst
    rcases hruled'.accepted_or with ⟨-, -, -, hzero⟩ | ⟨hfailed, -⟩
    · rcases hruled''.accepted_or with ⟨hok, -, -, hafter⟩ | ⟨-, hnot, -⟩
      · exact ⟨fun _ => ⟨hr.2 hok, hafter⟩, fun hlt => by omega⟩
      · omega
    · exact absurd hsecond hfailed

theorem Listed.counted {k : Nat} {reply : Except Error Host.Completion} (hl : Listed k reply) :
    Counted reply k := by
  cases hl with
  | none hcode hmissing => exact ⟨_, rfl, .inr ⟨hcode, hmissing, rfl⟩⟩
  | some hcode hshows =>
    exact ⟨_, rfl, .inl ⟨hcode, Listing.virtualFunctionLinks_of_shows hshows⟩⟩

theorem Found.current_eq (hk : Sysfs host f total current) (hf : Found f t)
    (ha : host.Answers s t s') : current s' = current s := by
  cases hf with
  | interface _ =>
    obtain ⟨-, rfl⟩ := ha
    exact (hk.found s _ _ rfl).2
  | address =>
    obtain rfl : s' = s := ha
    rfl

/-- What comes of a call on a kernel. -/
theorem settles_of_runs (hk : Sysfs host f total current) (hrun : (f.setCount h count check).Runs t r)
    (ha : host.Answers s t s') :
    (count ≤ total → r = .ok () ∧ current s' = count) ∧
      (total < count → (∃ e, r = .error e) ∧ current s' = current s) := by
  rcases runs_setCount hrun with ⟨name, reply, e, rfl, rfl, hreply, rfl⟩ | ⟨u, v, rfl, hu, hv⟩
  · obtain ⟨hanswer, -⟩ := ha
    have hfound := (hk.found s name {} rfl).1
    rw [show (host s (.execute (Command.listInterface name) {})).1 = reply from hanswer] at hfound
    exact absurd hfound hreply
  · obtain ⟨m, hm, ha⟩ := Host.answers_append.1 ha
    rw [← hu.current_eq hk hm]
    rcases runs_setCountIn hv with ⟨hw, -⟩ | ⟨w, reply, rfl, hw, hr⟩
    · exact hw.settles hk ha
    · obtain ⟨m', hm', hreply, rfl⟩ := Host.answers_append.1 ha
      obtain ⟨hle, hlt⟩ := hw.settles hk hm'
      obtain ⟨hlisted, hsame⟩ := hk.listed m' ({} : Host.Options).inShell.anyCode rfl
      refine ⟨fun hcount => ?_, fun hcount => ?_⟩
      · obtain ⟨-, hcurrent⟩ := hle hcount
        rw [hcurrent, show (host m' (.execute (Command.listVirtualFunctions f.directory) _)).1 = reply
          from hreply] at hlisted
        exact ⟨hr hlisted.counted, hsame.trans hcurrent⟩
      · obtain ⟨e, he⟩ := (hlt hcount).1
        cases he

/-- **The number of virtual functions.** On every host the numbers that are written follow the
protocol. On one that obeys a kernel a call ends, whatever number of virtual functions there was before:
it sets a number up to the total, and refuses a larger one without a change. -/
theorem setCount_protocol (h : Hypervisor) (f : PhysicalFunction) (count : Nat) (check : Bool) :
    (∀ t r, (f.setCount h count check).Runs t r → Protocol f count t) ∧
    ∀ {σ : Type} (host : Host σ) (total : Nat) (current : σ → Nat), Sysfs host f total current →
      ∀ rounds s, ∃ r s', (f.setCount h count check).attempt.run host rounds s = some (r, s') ∧
        (count ≤ total → r = .ok () ∧ current s' = count) ∧
        (total < count → (∃ e, r = .error e) ∧ current s' = current s) := by
  refine ⟨fun t r => protocol_of_runs, fun host total current hk rounds s => ?_⟩
  obtain ⟨r, s', hrun⟩ := (finite_setCount (h := h) f).exists_run host rounds s
  obtain ⟨t, ht, ha⟩ := Program.exists_runs_of_run hrun
  exact ⟨r, s', hrun, settles_of_runs hk ht ha⟩

end

/-- A listing of `k` virtual functions of one device. -/
def listingOf : Nat → List Char
  | 0 => []
  | k + 1 => Listing.linkHead k ++
      (['.', '.', '/'] ++ Pci.Address.chars ⟨0, 0xb1, 1, UInt8.ofNat k⟩ ++ '\n' :: listingOf k)

theorem shows_listingOf {k : Nat} (hk : k ≤ Text.limit32 + 1) (before : List Char)
    (hbefore : '>' ∉ before) : Listing.Shows k (before ++ listingOf k) := by
  induction k generalizing before with
  | zero => exact .none (by simpa [listingOf] using hbefore)
  | succ k ih =>
    have hend : Text.endsWord ('\n' :: listingOf k) = true := by
      rw [Text.endsWord]
      decide +kernel
    have hpath : ∀ c ∈ ['.', '.', '/'], Text.isBlank c = false ∧ c ≠ '>' := by
      rw [List.forall_mem_cons, List.forall_mem_cons, List.forall_mem_singleton]
      decide
    refine .link hbefore (by omega) hpath hend ?_
    exact ih (by omega) ['\n'] (by decide)

theorem number_inj {directory : String} {m n : Nat} :
    "echo " ++ decimal m ++ " > " ++ directory ++ "/sriov_numvfs" =
      "echo " ++ decimal n ++ " > " ++ directory ++ "/sriov_numvfs" ↔ m = n := by
  simp [Text.decimal_injective.eq_iff]

/-- An interface. -/
def eth0 : PhysicalFunction :=
  .interface "eth0"

/-- A host with an interface that may have up to eight virtual functions. -/
def eightFunctions : Host (Fin 9) := fun now request =>
  match request with
  | .execute command _ =>
    if command = Command.listInterface "eth0" then (Host.printed "", now)
    else if command = Command.listVirtualFunctions eth0.directory then
      if now = 0 then (Host.refused noSuchFile, now)
      else (Host.printed (String.ofList (listingOf now.val)), now)
    else
      match (List.finRange 9).find? fun number =>
          command = "echo " ++ decimal number.val ++ " > " ++ eth0.directory ++ "/sriov_numvfs" with
      | some number =>
        if number = 0 ∨ number = now ∨ now = 0 then (Host.printed "", number)
        else (Host.refused deviceBusy, now)
      | none => (Host.refused "Numerical result out of range", now)
  | request => (Host.anyReply request, now)

/-- The number that a command writes is found if it is not above eight. -/
theorem find?_finRange {directory : String} (number : Nat) :
    ((List.finRange 9).find? fun k =>
      "echo " ++ decimal number ++ " > " ++ directory ++ "/sriov_numvfs" =
        "echo " ++ decimal k.val ++ " > " ++ directory ++ "/sriov_numvfs") =
      if h : number < 9 then some ⟨number, h⟩ else none := by
  simp only [number_inj]
  split
  · rename_i h
    have hall : ∀ k : Fin 9, (List.finRange 9).find? (fun l => decide (k.val = l.val)) = some k := by
      decide
    exact hall ⟨number, h⟩
  · rename_i h
    rw [List.find?_eq_none]
    intro k _
    simp only [decide_eq_true_eq]
    omega

theorem sysfs_eightFunctions : Sysfs eightFunctions eth0 8 Fin.val where
  found := by
    rintro s name options ⟨⟩
    simp [eightFunctions, Succeeded, Host.printed]
  ruled := by
    rintro s number _ options rfl -
    have hwrite := startsWith_number eth0.directory number
    have hlook : "echo " ++ decimal number ++ " > " ++ eth0.directory ++ "/sriov_numvfs" ≠
        Command.listInterface "eth0" := by
      intro h
      rw [h, startsWith_listInterface] at hwrite
      cases hwrite
    have hlist : "echo " ++ decimal number ++ " > " ++ eth0.directory ++ "/sriov_numvfs" ≠
        Command.listVirtualFunctions eth0.directory := by
      intro h
      rw [h, startsWith_listVirtualFunctions] at hwrite
      cases hwrite
    simp only [eightFunctions, hlook, hlist, if_false, find?_finRange]
    by_cases h : number < 9
    · simp only [h, dite_true]
      split
      · rename_i hfree
        simp only [Fin.ext_iff] at hfree
        exact .accepted (by omega) hfree rfl
      · rename_i hset
        have hvalues : ¬ (number = 0 ∨ number = s.val ∨ s.val = 0) := by
          simp only [Fin.ext_iff] at hset
          exact hset
        exact .busy (by omega) (by omega) (by omega) (by omega) rfl (by decide +kernel)
    · simp only [h, dite_false]
      exact .refused (by omega) rfl (by decide +kernel)
  listed := by
    intro s options _
    have hlook : Command.listVirtualFunctions eth0.directory ≠
        Command.listInterface "eth0" := by
      decide +kernel
    simp only [eightFunctions, hlook, if_false, if_true]
    split
    · rename_i hzero
      subst hzero
      exact ⟨.none (by decide) (by decide +kernel), rfl⟩
    · rename_i hpos
      obtain ⟨k, hk⟩ := Nat.exists_eq_succ_of_ne_zero fun h : s.val = 0 => hpos (Fin.ext h)
      refine ⟨?_, rfl⟩
      rw [hk]
      refine .some rfl ?_
      rw [String.toList_ofList]
      have hlimit : k + 1 ≤ Text.limit32 + 1 := by
        have := s.isLt
        rw [Text.limit32]
        omega
      exact shows_listingOf hlimit [] (by simp)

/-- Six virtual functions in place of four. -/
theorem setCount_protocol_eth0 :
    Sysfs eightFunctions eth0 8 Fin.val ∧
      ∀ rounds, ∃ s', (eth0.setCount {} 6 true).attempt.run eightFunctions rounds 4 =
        some (.ok (), s') ∧ s'.val = 6 := by
  refine ⟨sysfs_eightFunctions, fun rounds => ?_⟩
  obtain ⟨r, s', hrun, hle, -⟩ :=
    (setCount_protocol {} eth0 6 true).2 eightFunctions 8 Fin.val sysfs_eightFunctions rounds 4
  obtain ⟨rfl, hcurrent⟩ := hle (by decide)
  exact ⟨s', hrun, hcurrent⟩

end VirtHost.Hypervisor
