import VirtHost.Duration
import VirtHost.Text.Scan

/-! # Failures

* `FileError`: why a file could not be read or written.
* `XmlError`: why a text is no document.
* `Error`: every way in which an operation on a host can fail, and `Error.message`, its wording.
-/

namespace VirtHost
set_option autoImplicit false

/-- Why a file or a program could not be used. -/
inductive FileError
  | missing
  | isDirectory
  | notDirectory
  | notText
  | nameTooLong
  | nulInPath
  | nulInArgument
  /-- Any other cause, in the words in which it was reported. -/
  | reported (what : String)
  deriving DecidableEq

def FileError.message : FileError → String
  | .missing => "No such file or directory (os error 2)"
  | .isDirectory => "Is a directory (os error 21)"
  | .notDirectory => "Not a directory (os error 20)"
  | .notText => "stream did not contain valid UTF-8"
  | .nameTooLong => "File name too long (os error 36)"
  | .nulInPath => "file name contained an unexpected NUL byte"
  | .nulInArgument => "nul byte found in provided data"
  | .reported what => what

inductive XmlError
  | malformed
  /-- The text ends inside an element. -/
  | unexpectedEnd
  | empty
  /-- Any other cause, in the words in which it was reported. -/
  | reported (what : String)
  deriving DecidableEq

def XmlError.message : XmlError → String
  | .malformed => "malformed markup"
  | .unexpectedEnd => "unexpected end of document"
  | .empty => "empty document"
  | .reported what => what

/-- A failed operation. -/
inductive Error
  | execution (command : String) (code : Int) (stdout stderr : String)
  | timeout (command : String) (limit : Duration)
  | file (cause : FileError)
  | interfaceNotFound (name : String)
  | fileNotFound (path : String)
  | notFound (what : String)
  | xml (cause : XmlError)
  | parse (what : String)
  | vfCountMismatch (expected actual : Nat)
  | notEnoughPciAddresses (expected created : Nat)
  | virtualFunction (what : String)
  | vmNotBooted (tries : Nat)
  | managementIpUnavailable (mac : String)
  | notEnoughRam
  | cloneTimeout (image : String) (seconds : Nat)
  | networkDataExhausted (expected found : Nat)
  /-- There is no room in memory for so many entries of network data: the program ends. -/
  | outOfMemory (entries : Nat)
  | unsupportedAction (action : String)
  | invalidPciAddress (text : String)
  | invalidConfig (what : String)
  deriving DecidableEq

namespace Error
open Text (decimal signedDecimal)

/-- The octets that an entry of network data takes in memory. -/
def entrySize : Nat := 32

/-- The number of entries of network data in the largest block of memory, which has 2 ^ 63 - 1 octets. -/
def largestCapacity : Nat := 0x7fffffffffffffff / entrySize

def message : Error → String
  | execution command code stdout stderr =>
    "Command `" ++ command ++ "` ended with code " ++ signedDecimal code ++ ": stdout: " ++ stdout
      ++ ", stderr: " ++ stderr
  | timeout command limit => "Command `" ++ command ++ "` did not finish in " ++ limit.text
  | file cause => "I/O error: " ++ cause.message
  | interfaceNotFound name => "Interface " ++ name ++ " not found"
  | fileNotFound path => "Not found " ++ path ++ " in system."
  | notFound what => what
  | xml cause => "XML error: " ++ cause.message
  | parse what => "Parse error: " ++ what
  | vfCountMismatch expected actual =>
    "Mismatched count of expected and created VFs " ++ decimal actual ++ " != " ++ decimal expected
  | notEnoughPciAddresses expected created =>
    "Not enough free PCI devices. Cannot create expected number of PCI Controllers: expected: "
      ++ decimal expected ++ ", created: " ++ decimal created
  | virtualFunction what => what
  | vmNotBooted tries => "VM was unable to boot after: " ++ decimal tries ++ " retries!"
  | managementIpUnavailable mac =>
    "VM is up but management IP is unavailable for MAC: " ++ mac ++ "!"
  | notEnoughRam => "Not enough free RAM on SUT for VM."
  | cloneTimeout image seconds =>
    "Cloning image " ++ image ++ " not finished in given timeout: " ++ decimal seconds
  | networkDataExhausted expected found =>
    "Not enough free network data: expected " ++ decimal expected ++ ", found " ++ decimal found
  | outOfMemory entries =>
    if largestCapacity < entries then "capacity overflow"
    else "memory allocation of " ++ decimal (entrySize * entries) ++ " bytes failed"
  | unsupportedAction action =>
    "Unsupported action: " ++ action ++ ", please use 'add' or 'rem'."
  | invalidPciAddress text => "Invalid PCI address: " ++ text
  | invalidConfig what => "Invalid configuration: " ++ what

/-- The messages of an error and of what caused it. -/
def chain (e : Error) : List String :=
  e.message ::
    match e with
    | file cause => [cause.message]
    | _ => []

/-- Whether a command failed and its error output has `needle` in it. -/
def stderrContains (needle : String) : Error → Bool
  | execution _ _ _ stderr => Text.includes stderr needle
  | _ => false

end Error
end VirtHost
