import Lockdown.Text.Radix
/-! Why an operation on a file fails, with the words of the operating system. -/
namespace Lockdown

open Text

inductive OsError where
  | notFound
  | notADirectory
  | isADirectory
  | invalidArgument
  | nameTooLong
  | nulInPath
  | unexpectedEnd
  | invalidUtf8
  deriving DecidableEq, Repr

def OsError.message : OsError → String
  | notFound => "No such file or directory (os error 2)"
  | notADirectory => "Not a directory (os error 20)"
  | isADirectory => "Is a directory (os error 21)"
  | invalidArgument => "Invalid argument (os error 22)"
  | nameTooLong => "File name too long (os error 36)"
  | nulInPath => "file name contained an unexpected NUL byte"
  | unexpectedEnd => "failed to fill whole buffer"
  | invalidUtf8 => "stream did not contain valid UTF-8"

inductive DeviceError where
  | openFailed (path : String) (cause : OsError)
  | seekFailed (path : String) (offset : UInt64) (cause : OsError)
  | readFailed (path : String) (offset : UInt64) (length : Nat) (cause : OsError)
  | writeFailed (path : String) (offset : UInt64) (length : Nat) (cause : OsError)
  deriving DecidableEq, Repr

namespace DeviceError

def cause : DeviceError → OsError
  | openFailed _ c => c
  | seekFailed _ _ c => c
  | readFailed _ _ _ c => c
  | writeFailed _ _ _ c => c

def message : DeviceError → String
  | openFailed path c => s!"Failed to open {path}: {c.message}"
  | seekFailed path offset c => s!"Failed to seek to 0x{hex offset.toNat} in {path}: {c.message}"
  | readFailed path offset length c =>
    s!"Failed to read {length} bytes at 0x{hex offset.toNat} from {path}: {c.message}"
  | writeFailed path offset length c =>
    s!"Failed to write {length} bytes at 0x{hex offset.toNat} to {path}: {c.message}"

end DeviceError

end Lockdown
