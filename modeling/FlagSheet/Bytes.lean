namespace FlagSheet

abbrev Bytes := List UInt8

namespace Bytes

def ofText (s : String) : Bytes := s.toUTF8.toList

def text? (bs : Bytes) : Option String := String.fromUTF8? bs.toByteArray

end Bytes

end FlagSheet
