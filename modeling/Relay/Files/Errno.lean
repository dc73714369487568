import Relay.Text.Basic

/-!
# Failed operations

What an operation on files or programs reports when it fails: an error number of the operating
system, or one of the mistakes that are found before the system is asked.
-/

namespace Relay

/-- An error number of the operating system. -/
structure Errno where
  number : Int
  deriving DecidableEq, Repr

namespace Errno

/-- There is no such file. -/
def noEntry : Errno := ⟨2⟩

/-- The descriptor is not open, or not open for what is asked. -/
def badDescriptor : Errno := ⟨9⟩

/-- The operation is not permitted on this file. -/
def accessDenied : Errno := ⟨13⟩

def fileExists : Errno := ⟨17⟩

/-- A path goes through something that is no directory. -/
def notDirectory : Errno := ⟨20⟩

def isDirectory : Errno := ⟨21⟩

/-- The device is full. -/
def noSpace : Errno := ⟨28⟩

/-- Nobody reads the pipe. -/
def brokenPipe : Errno := ⟨32⟩

/-- A component of a path, or the whole path, is too long. -/
def nameTooLong : Errno := ⟨36⟩

/-- A directory still holds files. -/
def notEmpty : Errno := ⟨39⟩

/-- The system's texts for its error numbers, from 1 on; two numbers are not used and have none. -/
def texts : List String :=
  ["Operation not permitted", "No such file or directory", "No such process",
    "Interrupted system call", "Input/output error", "No such device or address",
    "Argument list too long", "Exec format error", "Bad file descriptor", "No child processes",
    "Resource temporarily unavailable", "Cannot allocate memory", "Permission denied",
    "Bad address", "Block device required", "Device or resource busy", "File exists",
    "Invalid cross-device link", "No such device", "Not a directory", "Is a directory",
    "Invalid argument", "Too many open files in system", "Too many open files",
    "Inappropriate ioctl for device", "Text file busy", "File too large", "No space left on device",
    "Illegal seek", "Read-only file system", "Too many links", "Broken pipe",
    "Numerical argument out of domain", "Numerical result out of range",
    "Resource deadlock avoided", "File name too long", "No locks available",
    "Function not implemented", "Directory not empty", "Too many levels of symbolic links", "",
    "No message of desired type", "Identifier removed", "Channel number out of range",
    "Level 2 not synchronized", "Level 3 halted", "Level 3 reset", "Link number out of range",
    "Protocol driver not attached", "No CSI structure available", "Level 2 halted",
    "Invalid exchange", "Invalid request descriptor", "Exchange full", "No anode",
    "Invalid request code", "Invalid slot", "", "Bad font file format", "Device not a stream",
    "No data available", "Timer expired", "Out of streams resources",
    "Machine is not on the network", "Package not installed", "Object is remote",
    "Link has been severed", "Advertise error", "Srmount error", "Communication error on send",
    "Protocol error", "Multihop attempted", "RFS specific error", "Bad message",
    "Value too large for defined data type", "Name not unique on network",
    "File descriptor in bad state", "Remote address changed",
    "Can not access a needed shared library", "Accessing a corrupted shared library",
    ".lib section in a.out corrupted", "Attempting to link in too many shared libraries",
    "Cannot exec a shared library directly", "Invalid or incomplete multibyte or wide character",
    "Interrupted system call should be restarted", "Streams pipe error", "Too many users",
    "Socket operation on non-socket", "Destination address required", "Message too long",
    "Protocol wrong type for socket", "Protocol not available", "Protocol not supported",
    "Socket type not supported", "Operation not supported", "Protocol family not supported",
    "Address family not supported by protocol", "Address already in use",
    "Cannot assign requested address", "Network is down", "Network is unreachable",
    "Network dropped connection on reset", "Software caused connection abort",
    "Connection reset by peer", "No buffer space available",
    "Transport endpoint is already connected", "Transport endpoint is not connected",
    "Cannot send after transport endpoint shutdown", "Too many references: cannot splice",
    "Connection timed out", "Connection refused", "Host is down", "No route to host",
    "Operation already in progress", "Operation now in progress", "Stale file handle",
    "Structure needs cleaning", "Not a XENIX named type file", "No XENIX semaphores available",
    "Is a named type file", "Remote I/O error", "Disk quota exceeded", "No medium found",
    "Wrong medium type", "Operation canceled", "Required key not available", "Key has expired",
    "Key has been revoked", "Key was rejected by service", "Owner died", "State not recoverable",
    "Operation not possible due to RF-kill", "Memory page has hardware error"]

/-- The system's text for an error number. -/
def text (e : Errno) : String :=
  if e.number = 0 then "Success"
  else
    match (if e.number < 0 then none else texts[e.number.toNat - 1]?) with
    | none | some "" => s!"Unknown error {e.number}"
    | some t => t

end Errno

/-- Why an operation failed. -/
inductive IoError where
  /-- The system refused it. -/
  | os (code : Errno)
  | nulInPath
  /-- A program name, argument, directory or environment entry holds a NUL character. -/
  | nulInArgument
  /-- A file that should hold text is not valid UTF-8. -/
  | notUtf8
  deriving DecidableEq, Repr

/-- The failure in words. -/
def IoError.message : IoError → String
  | .os code => s!"{code.text} (os error {code.number})"
  | .nulInPath => "file name contained an unexpected NUL byte"
  | .nulInArgument => "nul byte found in provided data"
  | .notUtf8 => "stream did not contain valid UTF-8"

end Relay
