import VirtHost.Listing.Network
import VirtHost.Listing.Vm
import VirtHost.Proofs.Ipv4
import VirtHost.Proofs.Listing.Table
import VirtHost.Proofs.Text.Lines
import VirtHost.Proofs.Vm.State

/-! # Rows of tables

What the rows of a table of virtual machines, networks or leases show, with rows between them that show
nothing.

* `ShowsVm`, `ShowsNetwork`, `LeaseRow.columns`: the words of a row. A lease has two more columns, for the
  name of a host and for the id of a client, which may be left out.
* `LeaseRow.shown`: the lease that a row shows. Its sixth word is the name of the host, whatever was meant.
* `tables_read_back`: what is read from a table is what its rows show.
-/

namespace VirtHost.Listing
open Text
set_option autoImplicit false

variable {rows : List (List (List Char))} {row : List (List Char)} {text : List Char}

/-! ## Virtual machines and networks -/

/-- The row of a virtual machine: its id, its name and the words of its state. -/
def ShowsVm (e : Vm.Entry) (row : List (List Char)) : Prop :=
  row = e.id.toList :: e.name.toList :: words e.state.text.toList

theorem vmOfWords?_of_shows {e : Vm.Entry} (hstate : e.state.IsOfWords) (h : ShowsVm e row) :
    vmOfWords? row = some e := by
  obtain ⟨hne, hparse⟩ := hstate.words_text
  obtain ⟨state, more, hwords⟩ := List.exists_cons_of_ne_nil hne
  rw [h, hwords, vmOfWords?, ← hwords, hparse, String.ofList_toList, String.ofList_toList]

theorem vmOfWords?_of_short (h : row.length < 3) : vmOfWords? row = none := by
  match row with
  | [] | [_] | [_, _] => rfl
  | _ :: _ :: _ :: _ => simp at h; omega

/-- The row of a network: its name and three words or more. -/
def ShowsNetwork (name : String) (row : List (List Char)) : Prop :=
  ∃ more, 3 ≤ more.length ∧ row = name.toList :: more

theorem networkOfWords?_of_shows {name : String} (h : ShowsNetwork name row) :
    networkOfWords? row = some name := by
  obtain ⟨more, hlength, rfl⟩ := h
  match more with
  | [] | [_] | [_, _] => simp at hlength
  | _ :: _ :: _ :: _ => rw [networkOfWords?, String.ofList_toList]

theorem networkOfWords?_of_short (h : row.length < 4) : networkOfWords? row = none := by
  match row with
  | [] | [_] | [_, _] | [_, _, _] => rfl
  | _ :: _ :: _ :: _ :: _ => simp at h; omega

/-! ## Leases -/

/-- The protocol of an IPv4 lease. -/
def ipv4 : List Char :=
  "ipv4".toList

/-- An IPv4 lease as a table has it. -/
structure LeaseRow where
  date : List Char
  time : List Char
  mac : List Char
  ip : Ipv4
  /-- The width of the network. -/
  width : List Char
  hostname : Option (List Char)
  clientId : Option (List Char)

namespace LeaseRow

/-- The words of the row. A column that has nothing to say is left out. -/
def columns (l : LeaseRow) : List (List Char) :=
  [l.date, l.time, l.mac, ipv4, l.ip.text.toList ++ '/' :: l.width] ++ (l.hostname.toList ++ l.clientId.toList)

/-- The lease. -/
def lease (l : LeaseRow) : Network.Lease :=
  ⟨String.ofList (lowercase l.mac), l.ip, l.hostname.map String.ofList⟩

/-- The lease as it is shown: what stands in the sixth column is the name of the host. -/
def shown (l : LeaseRow) : Network.Lease :=
  ⟨String.ofList (lowercase l.mac), l.ip, (l.hostname.or l.clientId).map String.ofList⟩

theorem shown_eq_lease_iff {l : LeaseRow} : l.shown = l.lease ↔ (l.clientId.isSome → l.hostname.isSome) := by
  cases hhost : l.hostname <;> cases hclient : l.clientId <;> simp [shown, lease, hhost, hclient]

end LeaseRow

/-- A row without an IPv4 lease: it is too short, of another protocol, or its address is no IPv4 address. -/
inductive LacksLease : List (List Char) → Prop
  | short {row : List (List Char)} (h : row.length < 5) : LacksLease row
  | protocol {date time mac protocol : List Char} {more : List (List Char)} (h : protocol ≠ ipv4) :
      LacksLease (date :: time :: mac :: protocol :: more)
  | address {date time mac protocol address : List Char} {more : List (List Char)}
      (h : ∀ ip : Ipv4, upTo '/' address ≠ ip.text.toList) :
      LacksLease (date :: time :: mac :: protocol :: address :: more)

theorem leaseOfWords?_columns (l : LeaseRow) : leaseOfWords? l.columns = some l.shown := by
  have hip : Ipv4.read? (upTo '/' (l.ip.text.toList ++ '/' :: l.width)) = some l.ip := by
    rw [upTo_append (l.ip.slash_notMem_text)]
    exact Ipv4.read?_eq_some_iff.2 rfl
  have hsixth : (l.hostname.toList ++ l.clientId.toList).head? = l.hostname.or l.clientId := by
    cases l.hostname <;> cases l.clientId <;> rfl
  simp only [LeaseRow.columns, List.cons_append, List.nil_append, leaseOfWords?, hip, hsixth]
  rfl

theorem leaseOfWords?_of_lacks (h : LacksLease row) : leaseOfWords? row = none := by
  cases h with
  | short h =>
    match row with
    | [] | [_] | [_, _] | [_, _, _] | [_, _, _, _] => rfl
    | _ :: _ :: _ :: _ :: _ :: _ => simp at h; omega
  | @protocol date time mac protocol more h =>
    cases more with
    | nil => rfl
    | cons address more => exact if_neg h
  | @address date time mac protocol address more h =>
    have hread : Ipv4.read? (upTo '/' address) = none :=
      Option.eq_none_iff_forall_ne_some.2 fun ip hip => h ip (Ipv4.read?_eq_some_iff.1 hip)
    simp [leaseOfWords?, hread]

/-! ## Tables -/

/-- **Tables read back.** From a table of virtual machines, of networks or of leases exactly what its rows
show is read, in order, whatever other rows stand between them. A lease is read as it was meant unless it has
the id of a client and no name of a host: then that id is taken for the name. -/
theorem tables_read_back :
    (∀ (entries : List Vm.Entry) rows text, (∀ e ∈ entries, e.state.IsOfWords) → Tabulates rows text →
      Among ShowsVm (fun row => row.length < 3) entries rows → vms (String.ofList text) = entries) ∧
    (∀ (names : List String) rows text, Tabulates rows text →
      Among ShowsNetwork (fun row => row.length < 4) names rows → networks (String.ofList text) = names) ∧
    (∀ (leased : List LeaseRow) rows text, Tabulates rows text →
      Among (fun l row => row = l.columns) LacksLease leased rows →
      leases (String.ofList text) = leased.map LeaseRow.shown ∧
        (leases (String.ofList text) = leased.map LeaseRow.lease ↔
          ∀ l ∈ leased, l.clientId.isSome → l.hostname.isSome)) := by
  refine ⟨fun entries rows text hstates htable hrows => ?_, fun names rows text htable hrows => ?_,
    fun leased rows text htable hrows => ?_⟩
  · rw [vms, tableWords_of_tabulates htable,
      hrows.filterMap (fun e he row h => vmOfWords?_of_shows (hstates e he) h)
        (fun row h => vmOfWords?_of_short h), List.map_id']
  · rw [networks, tableWords_of_tabulates htable,
      hrows.filterMap (fun name _ row h => networkOfWords?_of_shows h)
        (fun row h => networkOfWords?_of_short h), List.map_id']
  · have hread : leases (String.ofList text) = leased.map LeaseRow.shown := by
      rw [leases, tableWords_of_tabulates htable]
      exact hrows.filterMap (fun l _ row h => h ▸ leaseOfWords?_columns l) fun row h => leaseOfWords?_of_lacks h
    refine ⟨hread, ?_⟩
    rw [hread, List.map_inj_left]
    exact forall₂_congr fun l _ => LeaseRow.shown_eq_lease_iff

/-! ## Tables of each kind -/

/-- Two virtual machines, one of them in a state of no known name, among rows that are too short. -/
def vmTable : List Char :=
  join ['\n'] ["Id  Name  State".toList, [], "--------".toList, "  - - ".toList,
    " 7   web    on  fire ".toList, [], "\t---".toList, "-  old   shut off\r".toList, []]

/-- Two networks and a row that is too short. -/
def networkTable : List Char :=
  join ['\n'] ["Name State Autostart Persistent".toList, "---".toList, " default  active   yes  yes".toList,
    "lost active yes".toList, "lab  inactive no no spare".toList]

/-- Two leases, one of them with both columns that may be left out, among leases of no IPv4 address. -/
def leaseTable : List Char :=
  join ['\n'] ["Expiry MAC".toList, "------".toList,
    "2023-02-10 16:22:22  52:54:00:AA:22:22  ipv4  192.168.1.11/24  Host1 01:52".toList,
    "2023-02-10 16:22:23  52:54:00:33:33:33  ipv6  fe80::1/64 host6".toList,
    "2023-02-10 16:22:24  52:54:00:33:33:34  ipv4  192.168.1.256/24 host4".toList,
    "2023-02-10 16:22:25  52:54:00:33:33:35  ipv4  192.168.1.12/24".toList]

/-- The first of these leases. -/
def fullLease : LeaseRow where
  date := "2023-02-10".toList
  time := "16:22:22".toList
  mac := "52:54:00:AA:22:22".toList
  ip := ⟨192, 168, 1, 11⟩
  width := "24".toList
  hostname := some "Host1".toList
  clientId := some "01:52".toList

/-- The last of these leases. -/
def bareLease : LeaseRow where
  date := "2023-02-10".toList
  time := "16:22:25".toList
  mac := "52:54:00:33:33:35".toList
  ip := ⟨192, 168, 1, 12⟩
  width := "24".toList
  hostname := none
  clientId := none

theorem tables_read_back_mixed :
    vms (String.ofList vmTable) = [⟨"7", "web", .other "on fire"⟩, ⟨"-", "old", .shutOff⟩] ∧
    networks (String.ofList networkTable) = ["default", "lab"] ∧
    leases (String.ofList leaseTable) = [fullLease, bareLease].map LeaseRow.lease := by
  obtain ⟨hvms, hnetworks, hleases⟩ := tables_read_back
  refine ⟨?_, ?_, ?_⟩
  · have hrows : tableWords (String.ofList vmTable) = [["-".toList, "-".toList],
        ["7".toList, "web".toList, "on".toList, "fire".toList], ["---".toList],
        ["-".toList, "old".toList, "shut".toList, "off".toList]] := by
      rw [tableWords_ofList]
      decide +kernel
    have hother : Vm.State.IsOfWords (.other "on fire") :=
      ⟨["on".toList, "fire".toList], by simp, by decide, by decide +kernel⟩
    have hoff : Vm.State.IsOfWords .shutOff :=
      ⟨["Shut".toList, "OFF".toList], by simp, by decide, by decide +kernel⟩
    refine hvms _ _ _ (by simp [hother, hoff]) (tabulates_tableWords (by decide +kernel)) ?_
    rw [hrows]
    exact .other (by decide) (.shown (by rfl) (.other (by decide) (.shown (by rfl) .nil)))
  · have hrows : tableWords (String.ofList networkTable) = [
        ["default".toList, "active".toList, "yes".toList, "yes".toList],
        ["lost".toList, "active".toList, "yes".toList],
        ["lab".toList, "inactive".toList, "no".toList, "no".toList, "spare".toList]] := by
      rw [tableWords_ofList]
      decide +kernel
    refine hnetworks _ _ _ (tabulates_tableWords (by decide +kernel)) ?_
    rw [hrows]
    have hshown (name : String) (more : List (List Char)) (h : 3 ≤ more.length) :
        ShowsNetwork name (name.toList :: more) := ⟨more, h, rfl⟩
    exact .shown (hshown "default" _ (by decide)) (.other (by decide)
      (.shown (hshown "lab" _ (by decide)) .nil))
  · have hrows : tableWords (String.ofList leaseTable) = [fullLease.columns,
        ["2023-02-10".toList, "16:22:23".toList, "52:54:00:33:33:33".toList, "ipv6".toList,
          "fe80::1/64".toList, "host6".toList],
        ["2023-02-10".toList, "16:22:24".toList, "52:54:00:33:33:34".toList, "ipv4".toList,
          "192.168.1.256/24".toList, "host4".toList], bareLease.columns] := by
      rw [tableWords_ofList]
      decide +kernel
    have hnone : Ipv4.read? (upTo '/' "192.168.1.256/24".toList) = none := by decide +kernel
    have hno (ip : Ipv4) : upTo '/' "192.168.1.256/24".toList ≠ ip.text.toList := fun h => by
      rw [Ipv4.read?_eq_some_iff.2 h] at hnone
      cases hnone
    refine ((hleases [fullLease, bareLease] _ _ (tabulates_tableWords (by decide +kernel)) ?_).2).2
      (by decide)
    rw [hrows]
    exact .shown rfl (.other (.protocol (by decide)) (.other (.address hno) (.shown rfl .nil)))

/-- The id of a client without the name of a host is read as that name. -/
theorem leases_client_alone :
    let l : LeaseRow := { bareLease with clientId := some "01:52:54".toList }
    let text := join ['\n'] ["Expiry MAC".toList, "------".toList,
      "2023-02-10 16:22:25 52:54:00:33:33:35 ipv4 192.168.1.12/24 01:52:54".toList]
    Tabulates [l.columns] text ∧ leases (String.ofList text) ≠ [l.lease] ∧
      leases (String.ofList text) = [⟨"52:54:00:33:33:35", ⟨192, 168, 1, 12⟩, some "01:52:54"⟩] := by
  intro l text
  have hrows : tableWords (String.ofList text) = [l.columns] := by
    rw [tableWords_ofList]
    decide +kernel
  have htable : Tabulates [l.columns] text := by
    rw [← hrows]
    exact tabulates_tableWords (by decide +kernel)
  have hread : leases (String.ofList text) = [l.shown] := by
    rw [leases, hrows]
    exact List.filterMap_cons_some (leaseOfWords?_columns l)
  refine ⟨htable, ?_, hread.trans (by decide +kernel)⟩
  rw [hread]
  decide +kernel

end VirtHost.Listing
