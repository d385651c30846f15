import BrickHost.Text.Hex

/-! System commands, the first payload byte of a system packet, and the status byte that follows
its echo in the reply. -/

namespace BrickHost

inductive SystemCommand where
  | beginDownload
  | continueDownload
  | beginUpload
  | continueUpload
  | beginGetFile
  | continueGetFile
  | closeFileHandle
  | listFiles
  | continueListFiles
  | createDir
  | deleteFile
  /-- Has no side effect, so it serves to probe a link. -/
  | listOpenHandles
  | writeMailbox
  | bluetoothPin
  | enterFirmwareUpdate
  deriving DecidableEq, Repr

namespace SystemCommand

/-- All commands in the order of their bytes, which start at 0x92. -/
def all : List SystemCommand :=
  [beginDownload, continueDownload, beginUpload, continueUpload, beginGetFile, continueGetFile,
    closeFileHandle, listFiles, continueListFiles, createDir, deleteFile, listOpenHandles,
    writeMailbox, bluetoothPin, enterFirmwareUpdate]

def byte : SystemCommand → UInt8
  | beginDownload => 0x92
  | continueDownload => 0x93
  | beginUpload => 0x94
  | continueUpload => 0x95
  | beginGetFile => 0x96
  | continueGetFile => 0x97
  | closeFileHandle => 0x98
  | listFiles => 0x99
  | continueListFiles => 0x9a
  | createDir => 0x9b
  | deleteFile => 0x9c
  | listOpenHandles => 0x9d
  | writeMailbox => 0x9e
  | bluetoothPin => 0x9f
  | enterFirmwareUpdate => 0xa0

def ofByte? (b : UInt8) : Option SystemCommand :=
  all.find? (·.byte == b)

def name : SystemCommand → String
  | beginDownload => "BeginDownload"
  | continueDownload => "ContinueDownload"
  | beginUpload => "BeginUpload"
  | continueUpload => "ContinueUpload"
  | beginGetFile => "BeginGetFile"
  | continueGetFile => "ContinueGetFile"
  | closeFileHandle => "CloseFileHandle"
  | listFiles => "ListFiles"
  | continueListFiles => "ContinueListFiles"
  | createDir => "CreateDir"
  | deleteFile => "DeleteFile"
  | listOpenHandles => "ListOpenHandles"
  | writeMailbox => "WriteMailbox"
  | bluetoothPin => "BluetoothPin"
  | enterFirmwareUpdate => "EnterFirmwareUpdate"

def title (c : SystemCommand) : String :=
  c.name ++ "(" ++ byteName c.byte ++ ")"

/-- The command that probes whether a link is alive. -/
def probe : SystemCommand := listOpenHandles

def payload (c : SystemCommand) (params : List UInt8) : List UInt8 :=
  c.byte :: params

end SystemCommand

inductive ReplyStatus where
  | success
  | unknownHandle
  | handleNotReady
  | corruptFile
  | noHandlesAvailable
  | noPermission
  | illegalPath
  | fileExists
  | endOfFile
  | sizeError
  | unknownError
  | illegalFilename
  | illegalConnection
  | unrecognized (byte : UInt8)
  deriving DecidableEq, Repr

namespace ReplyStatus

def ofByte (b : UInt8) : ReplyStatus :=
  match b.toNat with
  | 0 => success
  | 1 => unknownHandle
  | 2 => handleNotReady
  | 3 => corruptFile
  | 4 => noHandlesAvailable
  | 5 => noPermission
  | 6 => illegalPath
  | 7 => fileExists
  | 8 => endOfFile
  | 9 => sizeError
  | 10 => unknownError
  | 11 => illegalFilename
  | 12 => illegalConnection
  | _ => unrecognized b

def name : ReplyStatus → String
  | success => "Success"
  | unknownHandle => "UnknownHandle"
  | handleNotReady => "HandleNotReady"
  | corruptFile => "CorruptFile"
  | noHandlesAvailable => "NoHandlesAvailable"
  | noPermission => "NoPermission"
  | illegalPath => "IllegalPath"
  | fileExists => "FileExists"
  | endOfFile => "EndOfFile"
  | sizeError => "SizeError"
  | unknownError => "UnknownError"
  | illegalFilename => "IllegalFilename"
  | illegalConnection => "IllegalConnection"
  | unrecognized b => "Unrecognized(" ++ toString b.toNat ++ ")"

def isSuccess (s : ReplyStatus) : Bool :=
  s == success

end ReplyStatus
end BrickHost
