import Provisioning.Duration
import Provisioning.FileTree
import Provisioning.Journal
import Provisioning.Link.Sink
import Provisioning.Link.Source
import Provisioning.Text.Digits
import Provisioning.Text.Literal

/-! # Serial ports

The ports of a host have names, and are listed by name with what is known about them. A port is
opened at a speed, always with eight data bits, no parity, one stop bit and no flow control. What
goes wrong with a port has causes of its own; the program asks which kind of input or output error
is behind one, if any.
-/

namespace Provisioning

inductive SerialKind where
  /-- The device is not there any more. -/
  | noDevice
  /-- A setting that the port does not have. -/
  | invalidInput
  | unknown
  | io (kind : IoKind)
  deriving DecidableEq, Repr

/-- An error of the serial driver. -/
structure SerialError where
  kind : SerialKind
  text : String
  deriving DecidableEq, Repr

/-- The kind of input or output error behind an error of the driver. -/
def SerialKind.io? : SerialKind → Option IoKind
  | .io kind => some kind
  | .noDevice => some .notFound
  | .invalidInput | .unknown => none

/-- An error of the driver as an input or output error. -/
def SerialError.toIoError (error : SerialError) : IoError where
  kind := match error.kind with
    | .io kind => kind
    | .noDevice => .notFound
    | .invalidInput => .invalidInput
    | .unknown => .other
  text := error.text

inductive PortError where
  | «open» (port : String) (error : SerialError)
  | enumerate (error : SerialError)
  | io (error : IoError)
  deriving DecidableEq, Repr

namespace PortError

def message : PortError → String
  | «open» port error => "failed to open " ++ port ++ ": " ++ error.text
  | enumerate error => "failed to enumerate serial ports: " ++ error.text
  | io error => "transport I/O error: " ++ error.text

/-- The kind of input or output error behind an error, when there is one. -/
def ioKind : PortError → Option IoKind
  | «open» _ error => error.kind.io?
  | enumerate error => error.kind.io?
  | io error => some error.kind

/-- A driver's error that is not about opening or listing ports. -/
def ofSerial (error : SerialError) : PortError := io error.toIoError

end PortError

/-- How a port is attached. -/
inductive PortKind where
  | usb (vendor product : Nat) (description : Option String)
  | pci
  | bluetooth
  | unknown
  deriving DecidableEq, Repr

/-- A port as it is shown to the operator. -/
structure PortEntry where
  name : String
  kind : String
  product : Option String
  deriving DecidableEq, Repr

namespace PortEntry

def describe (name : String) : PortKind → PortEntry
  | .usb vendor product description =>
    ⟨name, "usb " ++ Text.hex 4 vendor ++ ":" ++ Text.hex 4 product, description⟩
  | .pci => ⟨name, "pci", none⟩
  | .bluetooth => ⟨name, "bluetooth", none⟩
  | .unknown => ⟨name, "unknown", none⟩

/-- Ports in the order of their names; ports of one name stay in the order they came in. -/
def sorted (ports : List PortEntry) : List PortEntry :=
  ports.mergeSort fun a b => decide (a.name ≤ b.name)

end PortEntry

/-- The speed that devices listen at. -/
def PortSettings.defaultBaudRate : Nat := 115200

/-- How a port is opened. -/
structure PortSettings where
  port : String
  baudRate : Nat := PortSettings.defaultBaudRate
  /-- How long a read waits. -/
  pollInterval : Duration := .ofMillis 200
  deriving DecidableEq, Repr

/-- The port that a device is attached to, and what goes wrong with it. -/
structure Device where
  port : String
  openError : Option SerialError := none
  cloneError : Option SerialError := none
  /-- Why the program cannot be told that the operator wants it to stop. -/
  signalError : Option String := none
  deriving DecidableEq, Repr

/-- How a port was asked for, and how often its handle was doubled. -/
structure PortUse where
  opened : List PortSettings := []
  clones : Nat := 0
  deriving DecidableEq, Repr

/-- A handle on an open port. -/
structure Handle where
  device : Device
  deriving DecidableEq, Repr

namespace Handle

def missingPort : SerialError := ⟨.io .notFound, "No such file or directory"⟩

/-- The error of opening a name that is no port. A name can be a path that leads through a file, or
one that is too long for any file. -/
def absent (files : FileTree) (name : String) : SerialError :=
  match files.read name with
  | .error ⟨.notADirectory, _⟩ => ⟨.io .notADirectory, "Not a directory"⟩
  | .error ⟨.invalidFilename, _⟩ => ⟨.io .invalidFilename, "File name too long"⟩
  | _ => missingPort

/-- Open a port. The only port there is, is the one with the device. -/
def «open» (settings : PortSettings) (device : Option Device) (files : FileTree) :
    Except PortError Handle × PortUse × List Journal.Record :=
  match device.filter (·.port = settings.port) with
  | none => (.error (.open settings.port (absent files settings.port)), {}, [])
  | some device => match device.openError with
    | some error => (.error (.open settings.port error), { opened := [settings] }, [])
    | none =>
      (.ok ⟨device⟩, { opened := [settings] },
        [⟨.info, "serial link open",
          [("port", .plain settings.port), ("baud", .number settings.baudRate)]⟩])

/-- Double a handle, so that one can read while the other writes. -/
def clone (handle : Handle) : Except PortError Handle × List Journal.Record :=
  match handle.device.cloneError with
  | some error => (.error (.ofSerial error), [])
  | none =>
    (.ok handle, [⟨.debug, "cloned serial link handle", [("port", .plain handle.device.port)]⟩])

/-- A handle as it is shown for inspection. -/
def description (handle : Handle) : String :=
  "SerialLink \x7b port: " ++ Text.literal handle.device.port ++ " \x7d"

end Handle

end Provisioning
