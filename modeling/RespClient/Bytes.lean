/-!
# Octet strings

Everything on the wire is a list of octets. This file names that type and the
two octets that end a line.
-/

namespace RespClient

/-- A run of octets, first octet first. -/
abbrev Bytes := List UInt8

/-- The line ending: carriage return and line feed. -/
def crlf : Bytes := [13, 10]

end RespClient
