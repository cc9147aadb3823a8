import Profanity.Stanza
import Profanity.Atoi
import Profanity.World
import Profanity.Muc
import Profanity.Presence.Caps
import Profanity.Presence.Direct
import Profanity.Presence.Subscription
import Profanity.Presence.Room
import Profanity.Presence.RoomRun
import Profanity.Presence.Dispatch
import Profanity.Presence.Session
import Profanity.Presence.Connection
import Profanity.Presence.Update
import Profanity.Presence.RoomView
import Profanity.Presence.Client
import Profanity.Presence.Frame
import Profanity.Presence.Interleave
import Profanity.Presence.Registry
import Profanity.Presence.Requests
import Profanity.Presence.Faults
