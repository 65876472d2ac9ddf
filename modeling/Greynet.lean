import Greynet.TransferMaps
import Greynet.Identity
import Greynet.CrossDial
import Greynet.Malformed
import Greynet.QueryFlood
import Greynet.Darknet
import Greynet.Gate
import Greynet.Frontier
import Greynet.TransferFeeds
import Greynet.TransferEnds
import Greynet.Streams
import Greynet.Handshake
import Greynet.Contacts
import Greynet.Urls
import Greynet.HeaderTimer
import Greynet.Members
import Greynet.Closed
import Greynet.Exchanges
import Greynet.Songs
import Greynet.Faults
import Greynet.Sources
