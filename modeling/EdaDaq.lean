import EdaDaq.Basic
import EdaDaq.World
import EdaDaq.Device
import EdaDaq.SendDif
import EdaDaq.Session
import EdaDaq.Readout
import EdaDaq.Cycle
import EdaDaq.Acquisition
import EdaDaq.Isolation
import EdaDaq.Initialize
import EdaDaq.Config
import EdaDaq.Lifecycle
import EdaDaq.Handles
import EdaDaq.InitFailure
import EdaDaq.Cancellation
import EdaDaq.Descriptors
