/-
Decoders: how the text of a body is made out.

The type that an answer gives its body may name an encoding. Which names there are, and what
each encoding makes of bytes, is for the library to say that the program asks servers with, and
a decoder is what that library does. All that is known of it here is how it reads a body for
which no encoding is named and which does not start with the mark of one.
-/
import SqlStates.Text.Blank
import SqlStates.Text.Utf8

set_option autoImplicit false

namespace SqlStates

/-- Whether a content type has a parameter `charset`, in small letters or capitals. -/
def namesCharset (contentType : Text) : Bool :=
  (contentType.splitOn ';').tail.any fun parameter =>
    "charset=".toList.isPrefixOf (Text.asciiLower (Text.trim parameter))

/-- The byte order marks of the encodings other than UTF-8 that have one. -/
def foreignMarks : List Bytes := [[0xFF, 0xFE], [0xFE, 0xFF]]

/-- A way to read bodies, by their content types if they have one. -/
structure Decoder where
  decode : Option Text → Bytes → Text
  /-- A body is UTF-8 unless something says that it is not. A byte order mark at its start is
  dropped, and bytes that are no text are mended. -/
  decode_unnamed : ∀ contentType body, (∀ t ∈ contentType, namesCharset t = false) →
    (∀ mark ∈ foreignMarks, ¬ mark <+: body) →
    decode contentType body = Utf8.dropMark (Utf8.decodeMending body)

/-- The decoder that reads every body as UTF-8. -/
def Decoder.utf8 : Decoder where
  decode _ body := Utf8.dropMark (Utf8.decodeMending body)
  decode_unnamed _ _ _ _ := rfl

end SqlStates
