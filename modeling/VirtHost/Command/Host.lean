import VirtHost.Device

/-! # Commands of a host

The text of every command other than the installation of a virtual machine, each named for what it
does.
-/

namespace VirtHost.Command
open Text (decimal)
set_option autoImplicit false

/-! ## Files, memory and reachability -/

/-- Asks an address for one answer, for at most a second. -/
def ping (ip : String) : String :=
  "ping -c 1 -W 1 " ++ ip

def copyFile (source destination : String) : String :=
  "cp " ++ source ++ " " ++ destination

/-- Prints the size of a file in bytes. -/
def fileSize (path : String) : String :=
  "stat -c %s " ++ path

def replaceUuid (path uuid : String) : String :=
  "sed -i 's/<VM_UUID>/" ++ uuid ++ "/g' " ++ path

/-- Prints the available memory in megabytes. -/
def freeMemory : String :=
  "free -m | awk '/^Mem:/ \x7bprint $7\x7d'"

def listKernelDevices : String :=
  "lspci -k"

/-! ## Interfaces and virtual functions -/

def showLink (interface : String) : String :=
  "ip link show dev " ++ interface

def listInterface (interface : String) : String :=
  "ls /sys/class/net/" ++ interface

def interfaceDirectory (interface : String) : String :=
  "/sys/class/net/" ++ interface ++ "/device"

def deviceDirectory (pf : Pci.Address) : String :=
  "/sys/bus/pci/devices/" ++ pf.text

/-- Lists the links to all virtual functions of the device with a directory. -/
def listVirtualFunctions (directory : String) : String :=
  "ls -l " ++ directory ++ "/virtfn*"

def listVirtualFunction (directory : String) (id : Nat) : String :=
  "ls -l " ++ directory ++ "/virtfn" ++ decimal id

def setVirtualFunctions (directory : String) (count : Nat) : String :=
  "echo " ++ decimal count ++ " > " ++ directory ++ "/sriov_numvfs"

def trunkFile (interface : String) (id : Nat) : String :=
  interfaceDirectory interface ++ "/sriov/" ++ decimal id ++ "/trunk"

def tpidFile (interface : String) : String :=
  interfaceDirectory interface ++ "/sriov/tpid"

def setTrunk (interface : String) (action : Network.TrunkAction) (vlan id : Nat) : String :=
  "echo " ++ action.text ++ " " ++ decimal vlan ++ " > " ++ trunkFile interface id

def getTrunk (interface : String) (id : Nat) : String :=
  "cat " ++ trunkFile interface id

def setTpid (interface tpid : String) : String :=
  "echo " ++ tpid ++ " > " ++ tpidFile interface

def getTpid (interface : String) : String :=
  "cat " ++ tpidFile interface

/-! ## Mediated devices -/

/-- Creates a mediated device; prints its UUID. -/
def createMediated (uuid : String) (parent : Pci.Address) (type : String) : String :=
  "echo \"" ++ uuid ++ "\" | tee /sys/class/mdev_bus/" ++ parent.shellText
    ++ "/mdev_supported_types/" ++ type ++ "/create"

def removeMediated (uuid : String) : String :=
  "echo 1 > /sys/bus/mdev/devices/" ++ uuid ++ "/remove"

/-- Prints the address of the parent of a mediated device. -/
def mediatedParent (uuid : String) : String :=
  "basename $(dirname $(readlink -f /sys/bus/mdev/devices/" ++ uuid ++ "))"

def listMediated : String :=
  "ls /sys/bus/mdev/devices/"

/-! ## Bridges -/

def addBridge (bridge : String) : String :=
  "brctl addbr " ++ bridge

def deleteBridge (bridge : String) : String :=
  "brctl delbr " ++ bridge

def addToBridge (bridge interface : String) : String :=
  "brctl addif " ++ bridge ++ " " ++ interface

end VirtHost.Command
