import Spacetest.Kernel
import Spacetest.Api
import Spacetest.Uds
import Spacetest.Spacer
import Spacetest.Service
import Spacetest.Client
import Spacetest.Execute
import Spacetest.InAndOut
import Spacetest.Separate
import Spacetest.Exchange
import Spacetest.Transient
import Spacetest.Broker
import Spacetest.PidFd
import Spacetest.ClientCalls
import Spacetest.SubspaceCall
import Spacetest.ServeRun
