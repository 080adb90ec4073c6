import VirtHost.Pci

/-! # Device templates

* `render`: a template with its placeholders replaced, one key after the other.
* `builtIn`: the template of each kind of device.
* `virtualFunction`, `controller`, `mediated`: the XML of a device.
-/

namespace VirtHost.Template
set_option autoImplicit false

inductive Kind
  | virtualFunction
  | controller
  | mediated
  deriving DecidableEq

/-- The placeholder of a key: the key between two pairs of braces. -/
def placeholder (key : String) : List Char :=
  '\x7b' :: '\x7b' :: key.toList ++ ['\x7d', '\x7d']

/-- The template with the placeholders of the keys replaced by their values, one key after the other.
-/
def render (template : String) (values : List (String × String)) : String :=
  String.ofList <| values.foldl (fun text value =>
    Text.replaceAll (placeholder value.1) value.2.toList text) template.toList

def builtIn : Kind → String
  | .virtualFunction =>
    "<hostdev mode='subsystem' type='pci' managed='yes'>\n  <source>\n    <address domain='\x7b\x7bdomain\x7d\x7d' bus='\x7b\x7bbus\x7d\x7d' slot='\x7b\x7bslot\x7d\x7d' function='\x7b\x7bfunc\x7d\x7d'/>\n  </source>\n</hostdev>\n"
  | .controller =>
    "<controller type='pci' index='\x7b\x7bindex\x7d\x7d' model='pcie-root-port'>\n  <model name='pcie-root-port'/>\n  <target chassis='\x7b\x7bchassis\x7d\x7d' port='\x7b\x7bport\x7d\x7d'/>\n  <address type='pci' domain='\x7b\x7bdomain\x7d\x7d' bus='\x7b\x7bbus\x7d\x7d' slot='\x7b\x7bslot\x7d\x7d' function='\x7b\x7bfunc\x7d\x7d'/>\n</controller>\n"
  | .mediated =>
    "<hostdev mode='subsystem' type='mdev' managed='no' model='vfio-pci' display='off'>\n  <source>\n    <address uuid='\x7b\x7buuid\x7d\x7d'/>\n  </source>\n</hostdev>\n"

def virtualFunction (template : String) (pci : Pci.Address) : String :=
  render template pci.values

/-- The values of a controller: its address, its index and chassis in decimal and its port in
hexadecimal. -/
def controllerValues (pci : Pci.Address) (index chassis port : Nat) : List (String × String) :=
  pci.values ++ [("index", Text.decimal index), ("chassis", Text.decimal chassis),
    ("port", Pci.Address.hexValue port)]

def controller (template : String) (pci : Pci.Address) (index chassis port : Nat) : String :=
  render template (controllerValues pci index chassis port)

def mediated (template uuid : String) : String :=
  render template [("uuid", uuid)]

end VirtHost.Template
