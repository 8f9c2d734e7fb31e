import SqlTidy.Archive.Inflate
import SqlTidy.Crash

/-!
# What can be wrong with an archive

An archive may be damaged, or sound but beyond what can be unpacked here. Unpacking may also be
refused by the file system, or fail in a way that nothing handles.
-/

namespace SqlTidy

/-- Damage to an archive. -/
inductive Damage where
  | notZip
  | severalDisks
  | directoryOffset
  | directoryEnded
  | directoryMagic
  | extraField (kind size : Nat)
  | wideField (field : String)
  | headerEnded
  | headerMagic
  | nameMismatch (inDirectory : String) (inHeader : Octets)
  | overlap (name : String)
  | checksum (name : String)
  | notGzip
  | emptyTar
  | tarHeader (text : String)
  | compressedData (flaw : InflateFlaw)
deriving DecidableEq, Repr

def Damage.message : Damage → String
  | .notZip => "File is not a zip file"
  | .severalDisks => "zipfiles that span multiple disks are not supported"
  | .directoryOffset => "Bad offset for central directory"
  | .directoryEnded => "Truncated central directory"
  | .directoryMagic => "Bad magic number for central directory"
  | .extraField kind size => "Corrupt extra field " ++ hexText 4 kind ++ " (size=" ++ toString size ++ ")"
  | .wideField field => "Corrupt zip64 extra field. " ++ field ++ " not found."
  | .headerEnded => "Truncated file header"
  | .headerMagic => "Bad magic number for file header"
  | .nameMismatch inDirectory inHeader =>
    "File name in directory " ++ quoted inDirectory ++ " and header " ++ quotedOctets inHeader ++ " differ."
  | .overlap name => "Overlapped entries: " ++ quoted name ++ " (possible zip bomb)"
  | .checksum name => "Bad CRC-32 for file " ++ quoted name
  | .notGzip => "not a gzip file"
  | .emptyTar => "empty file"
  | .tarHeader text => text
  | .compressedData flaw => "zlib error: Error -3 while decompressing data: " ++ flaw.text

/-- Features of an archive that are not supported. -/
inductive Unsupported where
  | version (tenths : Nat)
  | patchedData
  | strongEncryption
  | encrypted (member : String)
  | method
  | offset
  | name (error : Utf8Error)
  | negativeLength
  | notNumber (shown : String)
  | digits (limit : DigitLimitExceeded)
  | missingLine
deriving DecidableEq, Repr

def Unsupported.message : Unsupported → String
  | .version tenths => "zip file version " ++ toString (tenths / 10) ++ "." ++ toString (tenths % 10)
  | .patchedData => "compressed patched data (flag bit 5)"
  | .strongEncryption => "strong encryption (flag bit 6)"
  | .encrypted member => "File " ++ member ++ " is encrypted, password required for extraction"
  | .method => "That compression method is not supported"
  | .offset => "cannot fit 'int' into an offset-sized integer"
  | .name error => error.message
  | .negativeLength => "read length must be non-negative or -1"
  | .notNumber shown => "invalid literal for int() with base 10: " ++ shown
  | .digits limit => limit.message
  | .missingLine => "not enough values to unpack (expected 2, got 1)"

/-- Why an archive is not unpacked. -/
inductive UnpackError where
  | damaged (damage : Damage)
  | unsupported (feature : Unsupported)
  | io (error : IoError)
  /-- The data of a member is no stream of its method. -/
  | badStream
  | crash (crash : Crash)
deriving DecidableEq, Repr

end SqlTidy
