import LeVoltageMonitor.Average
import LeVoltageMonitor.Ldma
import LeVoltageMonitor.Monitor
import LeVoltageMonitor.Consistency
import LeVoltageMonitor.Session
import LeVoltageMonitor.Design
import LeVoltageMonitor.Refinement
import LeVoltageMonitor.Power
import LeVoltageMonitor.App
import LeVoltageMonitor.Notify
import LeVoltageMonitor.Shutdown
import LeVoltageMonitor.Stream
