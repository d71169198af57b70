/-
  HotelAgent.Services.Conversation — what the language model is sent.

  `generate_response` puts together

      a system message: the prompt of the service and what is known of the guest
      the last ten messages of the history
      what the guest has said

  The history is made from the transcript of the session, whose last ten
  messages the view takes.
-/
import HotelAgent.Services.VoiceAgent
import HotelAgent.Api.Serializers

namespace HotelAgent

open Lib

/-! ## §1. The guest's context. -/

/-- `SYSTEM_PROMPT`. -/
def systemPrompt : Text :=
  ["You are ARIA (Automated Room Intelligence Assistant), a professional and",
    "friendly AI voice concierge for a luxury hotel. You help guests with:",
    "",
    "1. Room service orders (food & beverages)",
    "2. Housekeeping requests (fresh towels, cleaning, turndown service)",
    "3. Maintenance requests (AC, TV, plumbing issues)",
    "4. Concierge services (restaurant reservations, taxi, tour bookings)",
    "5. Wake-up call scheduling",
    "6. General hotel information (amenities, facilities, check-out time)",
    "7. Spa and wellness bookings",
    "8. Laundry services",
    "",
    "Guidelines:",
    "- Always be warm, professional, and efficient",
    "- Confirm details before creating any service request",
    "- If a request is urgent (safety/emergency), escalate immediately",
    "- Extract: service_type, description, priority, scheduled_time from each request",
    "- Respond in the guest's language when possible",
    "- Keep responses concise for voice output (under 80 words)",
    "- End service requests with a confirmation and estimated wait time",
    "",
    "When you identify a service request, include a structured tag at the end:",
    "<service_request>",
    "\x7b",
    "  \"service_type\": \"<type>\",",
    "  \"description\": \"<detailed description>\",",
    "  \"priority\": \"<low|normal|high|urgent>\",",
    "  \"scheduled_at\": \"<ISO datetime or null>\"",
    "\x7d",
    "</service_request>"].flatMap
    fun line => txt line ++ txt "\n"

/-- The members of `guest_context` for a session with a booking. -/
structure StayContext where
  roomNumber : Text
  roomType : Text
  checkOut : Text
  confirmationCode : Text

/-- `guest_context`. -/
structure GuestContext where
  name : Text
  preferences : Json
  stay : Option StayContext

/-- `VoiceSessionViewSet._build_guest_context`. -/
def buildGuestContext (db : Db) (s : VoiceSession) : Option GuestContext :=
  (db.users.find? s.guestId).map fun guest =>
    { name := guest.fullName
      preferences := guest.preferences
      stay := do
        let booking ← s.bookingId.bind db.bookings.find?
        let room ← db.rooms.find? booking.roomId
        some
          { roomNumber := room.number
            roomType := room.roomType.label
            checkOut := booking.checkOut.str
            confirmationCode := booking.confirmationCode } }

/-- `bool(value)`. -/
def truthy : Json → Bool
  | .null => false
  | .bool b => b
  | .int i => i ≠ 0
  -- a float is zero when no digit before its exponent is another; `nan` and `inf` are not
  | .float lit =>
    (lit.takeWhile fun c => !isExp c).any fun c => c.val ≠ 0x2D && c.val ≠ 0x2E && c.val ≠ 0x30
  | .str s => s ≠ []
  | .arr xs => !xs.isEmpty
  | .obj fields => !fields.isEmpty

/-- `f"{value}"`. -/
def formatted (py : Python) : Json → Text
  | .str s => s
  | v => py.strOf v

/-- The context as the dictionary that it is. -/
def GuestContext.dict (context : GuestContext) : List (Text × Json) :=
  [(txt "name", .str context.name), (txt "preferences", context.preferences)]
    ++ match context.stay with
      | none => []
      | some stay =>
        [(txt "room_number", .str stay.roomNumber), (txt "room_type", .str stay.roomType),
          (txt "check_out", .str stay.checkOut),
          (txt "confirmation_code", .str stay.confirmationCode)]

/-- The line of one entry, if its value counts as true. -/
def contextLine (py : Python) (context : List (Text × Json)) (key label : Text) : List Text :=
  let value := dictGet context key .null
  if truthy value then [label ++ formatted py value] else []

/-- The `lines` of `_format_guest_context`. -/
def contextLines (py : Python) (context : List (Text × Json)) : List Text :=
  contextLine py context (txt "name") (txt "- Guest Name: ")
    ++ contextLine py context (txt "room_number") (txt "- Room Number: ")
    ++ contextLine py context (txt "check_out") (txt "- Check-out: ")
    ++ contextLine py context (txt "preferences") (txt "- Preferences: ")

/-- `_format_guest_context`. -/
def formatGuestContext (py : Python) (context : List (Text × Json)) : Text :=
  (txt "\n").intercalate (contextLines py context)

/-! ## §2. The messages. -/

/-- A message for the language model; a `ConversationMessage` is one, too, with a timestamp that
is not read. -/
structure ChatMessage where
  role : Text
  content : Text
  deriving DecidableEq

/-- `messages[-10:]`. -/
def lastTen {α : Type} (messages : List α) : List α := messages.drop (messages.length - 10)

/-- The history that `process_turn` makes of a transcript. -/
def historyOf (transcript : List Message) : List ChatMessage :=
  (lastTen transcript).map fun m => { role := m.role, content := m.content }

/-- The system message. -/
def systemMessage (py : Python) (context : Option GuestContext) : ChatMessage where
  role := txt "system"
  content :=
    match context with
    | none => systemPrompt
    | some context =>
      systemPrompt ++ txt "\n\nGuest Context:\n" ++ formatGuestContext py context.dict

/-- The message of what the guest has said. -/
def userMessage (text : Text) : ChatMessage := { role := txt "user", content := text }

/-- The `messages` of `generate_response`. -/
def chatMessages (py : Python) (text : Text) (history : List ChatMessage)
    (context : Option GuestContext) : List ChatMessage :=
  systemMessage py context :: lastTen history ++ [userMessage text]

end HotelAgent
